import ManagementServer.Proofs.SubscriptionRequests

/-!
# Requests to subscribe, side by side

Any number of requests to subscribe may be under way at once, of one session or of several. Between
two of their steps other threads deliver, close sessions, publish, and do whatever else they like to
what is shared: `Desk.Move` lists it all. `Desk.Sound` is what no move breaks.
-/

namespace ManagementServer

namespace Server

open Event (subscriberBound)
open Session (Registry Ref DeliveryRef)

variable {μ : Type}

/-! ## What has nothing to do with subscriptions -/

/-- Whether a disturbance has nothing to do with subscriptions. -/
def Disturbance.isForeign : Disturbance μ → Bool
  | .close _ | .attach .. | .changeRest .. => false
  | _ => true

/-- Sessions may come, and every session holds what it has held. Deliveries and modules stay what
they are. -/
structure Shared.Ignores (s s' : Shared μ) : Prop where
  sessions : s.sessions.Holds s'.sessions
  records : s.sessions.records.length ≤ s'.sessions.records.length
  deliveries : s'.deliveries = s.deliveries
  modules : s'.modules = s.modules

lemma Shared.ignores_of_records {s s' : Shared μ}
    (hr : s'.sessions.records = s.sessions.records) (hd : s'.deliveries = s.deliveries)
    (hm : s'.modules = s.modules) : s.Ignores s' :=
  ⟨Registry.holds_of_records hr, Nat.le_of_eq (congrArg List.length hr.symm), hd, hm⟩

lemma Disturbance.ignores {disturbance : Disturbance μ} (h : disturbance.isForeign)
    (s : Shared μ) : s.Ignores (disturbance.act s) := by
  cases disturbance with
  | close | attach | changeRest => cases h
  | register id username capabilities connection =>
    rcases Registry.add_cases id username capabilities connection s.sessions with
      ⟨error, -, he⟩ | ⟨ref, -, hr⟩
    · have hsame : act s (.register id username capabilities connection) = s := by
        simp [act, Shared.onSessions, he]
      rw [hsame]
      exact Shared.ignores_of_records rfl rfl rfl
    · exact ⟨hr.holds rfl, hr.ages.length, rfl, rfl⟩
  | terminate session =>
    refine ⟨Registry.holds_markTerminating _ session, ?_, rfl, rfl⟩
    exact (s.sessions.narrows_markTerminating session).ages.length
  | remove id => exact Shared.ignores_of_records (Registry.records_detachId _ id) rfl rfl
  | removeRef session =>
    exact Shared.ignores_of_records (Registry.records_detachRef _ session) rfl rfl
  | disconnect connection mode =>
    cases hf : s.table.find? connection with
    | none =>
      have hsame : act s (.disconnect connection mode) = s := by
        simp [act, Shared.closeConnection, hf]
      rw [hsame]
      exact Shared.ignores_of_records rfl rfl rfl
    | some link =>
      rcases Shared.closeConnection_cases hf mode with hs | hs <;>
        exact Shared.ignores_of_records (by rw [act, hs]) (by rw [act, hs]) (by rw [act, hs])
  | removeAll | connect | forget | disconnectAll | changeSocket =>
    exact Shared.ignores_of_records rfl rfl rfl

/-! ## Requests side by side, and all others -/

/-- What is shared, the requests to subscribe, the threads that close sessions, and the guests of
the bus, whom no request has subscribed. -/
structure Desk (μ : Type) where
  shared : Shared μ
  applicants : List Applicant
  teardowns : List Closing
  guests : List Nat

namespace Desk

/-- What happens next: a session asks for a subscription, a request makes a step, a session that was
given a subscription is answered or not, a delivery moves or is told to stop, a thread begins or
goes on to close a session, a guest uses the bus, modules come and go, or something else happens. -/
inductive Move (μ : Type) where
  | ask (asking : Asking)
  | step (index : Nat) (env : Environment)
  | answer (index : Nat) (gate : Event.Gate)
  | deliver (now : Time.Instant) (delivery : DeliveryRef)
  | cancel (delivery : DeliveryRef)
  | close (session : Ref)
  | goOn (index : Nat)
  | guest (op : Event.Bus.Operation)
  | renew (modules : Device.Registry μ) (isShuttingDown : Bool)
  | other (disturbance : Disturbance μ)

/-- A server before anybody asks for a subscription. Whoever subscribes to the bus of its modules is
a guest. -/
def ofModules (modules : Device.Registry μ) : Desk μ :=
  ⟨.ofModules modules, [], [], modules.bus.numbers⟩

def bus (x : Desk μ) : Event.Bus := x.shared.modules.bus

/-- The subscription that a session holds. -/
def slot (x : Desk μ) (session : Ref) : Option DeliveryRef :=
  (x.shared.sessions.record session).subscription

def IsKnown (x : Desk μ) (session : Ref) : Prop :=
  session.number < x.shared.sessions.records.length

instance (x : Desk μ) (session : Ref) : Decidable (x.IsKnown session) :=
  inferInstanceAs (Decidable (_ < _))

def IsClosed (x : Desk μ) (session : Ref) : Prop :=
  (x.shared.sessions.record session).status = .closed

/-- Some session was given the delivery. -/
def IsGiven (x : Desk μ) (ref : DeliveryRef) : Prop :=
  ∃ (i : Nat) (a : Applicant), x.applicants[i]? = some a ∧ a.given? = some ref

/-- A thread that closes a session is ending the delivery. -/
def IsEnding (x : Desk μ) (ref : DeliveryRef) : Prop :=
  .cancel ref ∈ x.teardowns ∨ .join ref ∈ x.teardowns

/-- Whether a move takes a number for a subscriber. -/
def orders (x : Desk μ) : Move μ → Bool
  | .step index _ => x.applicants[index]?.any (·.stage.isOrdering)
  | .guest op => op.isSubscribe
  | _ => false

variable [Device.DeviceModule μ]

/-- The desk behind a move. -/
def act (x : Desk μ) : Move μ → Desk μ
  | .ask asking =>
    if x.IsKnown asking.session ∧ Route.ofRequest asking.request = .subscribe then
      { x with applicants := x.applicants ++ [⟨asking, .routing, none⟩] }
    else x
  | .step index env =>
    match x.applicants[index]? with
    | none => x
    | some a =>
      { x with
        shared := (a.step env x.shared).state
        applicants := x.applicants.set index (a.step env x.shared).value }
  | .answer index gate =>
    match x.applicants[index]?.bind (·.given?) with
    | none => x
    | some ref => { x with shared := (Shared.setGate ref gate x.shared).state }
  | .deliver now ref => { x with shared := (Shared.deliver now ref x.shared).state }
  | .cancel ref => { x with shared := (Shared.cancel ref x.shared).state }
  | .close session =>
    if x.IsKnown session then { x with teardowns := x.teardowns ++ [.mark session] } else x
  | .goOn index =>
    match x.teardowns[index]? with
    | none => x
    | some c =>
      { x with
        shared := (c.step x.shared).state
        teardowns := x.teardowns.set index (c.step x.shared).value }
  | .guest op =>
    if op.subscriber?.all (· ∈ x.guests) then
      { x with
        shared :=
          { x.shared with modules := { x.shared.modules with bus := op.act x.bus } }
        guests := op.guests x.bus x.guests }
    else x
  | .renew modules isShuttingDown =>
    { x with shared := { x.shared with modules := { modules with bus := x.bus }, isShuttingDown } }
  | .other disturbance =>
    if disturbance.isForeign then { x with shared := disturbance.act x.shared } else x

lemma act_step {x : Desk μ} {i : Nat} {a : Applicant} (hi : x.applicants[i]? = some a)
    (env : Environment) :
    x.act (.step i env) =
      { x with
        shared := (a.step env x.shared).state
        applicants := x.applicants.set i (a.step env x.shared).value } := by
  simp [act, hi]

lemma act_step_of_none {x : Desk μ} {i : Nat} (hi : x.applicants[i]? = none)
    (env : Environment) : x.act (.step i env) = x := by
  simp [act, hi]

def after (x : Desk μ) (moves : List (Move μ)) : Desk μ := moves.foldl act x

/-- How many numbers of subscribers moves take that happen one after the other. -/
def subscriptions (x : Desk μ) : List (Move μ) → Nat
  | [] => 0
  | m :: rest => (x.orders m).toNat + subscriptions (x.act m) rest

end Desk

/-! ## What no move breaks -/

namespace Desk

variable {x x' : Desk μ}

/-- Requests to subscribe come from sessions that are known and stand where they can, each with a
delivery of its own. -/
structure Attended (x : Desk μ) : Prop where
  asked : ∀ (i : Nat) (a : Applicant), x.applicants[i]? = some a →
    x.IsKnown a.asking.session ∧ Route.ofRequest a.asking.request = .subscribe
  stands : ∀ (i : Nat) (a : Applicant), x.applicants[i]? = some a → a.Stands x.shared
  apart : ∀ (i j : Nat) (a b : Applicant) (ref : DeliveryRef), x.applicants[i]? = some a →
    x.applicants[j]? = some b → a.made = some ref → b.made = some ref → i = j

/-- What a session was given has ended, or the session holds it, or the session is closed and
whoever closes it is ending the delivery. -/
structure Sound (x : Desk μ) : Prop extends Attended x where
  numbered : x.shared.Numbered x.guests
  held : ∀ (i : Nat) (a : Applicant) (ref : DeliveryRef), x.applicants[i]? = some a →
    a.given? = some ref → x.shared.isFinished ref ∨ x.slot a.asking.session = some ref ∨
      x.IsClosed a.asking.session ∧ x.IsEnding ref
  slots : ∀ session ref, x.slot session = some ref →
    ∃ (i : Nat) (a : Applicant), x.applicants[i]? = some a ∧ a.asking.session = session ∧
      a.given? = some ref
  marks : ∀ session, .mark session ∈ x.teardowns → x.IsKnown session
  takes : ∀ session, .take session ∈ x.teardowns → x.IsClosed session

lemma sound_ofModules {modules : Device.Registry μ}
    (h : ∀ id ∈ modules.bus.numbers, id < modules.bus.nextId) :
    (Desk.ofModules modules).Sound := by
  have hticket : ∀ ref, (ofModules modules).shared.ticket? ref = none := fun _ => rfl
  have hasked : ∀ (i : Nat), (ofModules modules).applicants[i]? = none := fun _ => rfl
  have hslot : ∀ session, (ofModules modules).slot session = none := fun _ => rfl
  have hidle : (ofModules modules).teardowns = [] := rfl
  refine ⟨⟨?_, ?_, ?_⟩, ⟨h, ?_, ?_, ?_, ?_⟩, ?_, ?_, ?_, ?_⟩
  case refine_7 =>
    intro id
    refine (or_iff_left ?_).symm
    simp [hticket]
  all_goals simp [hticket, hasked, hslot, hidle]

namespace Attended

variable {i : Nat} {a a' : Applicant} {ref : DeliveryRef}

/-- What was made for a request whose session was given nothing for it, was given to nobody. -/
lemma not_isGiven (h : x.Attended) (hi : x.applicants[i]? = some a) (hm : a.made = some ref)
    (hg : a.given? = none) : ¬ x.IsGiven ref := by
  rintro ⟨j, b, hj, hb⟩
  obtain rfl := h.apart i j a b ref hi hj hm ((h.stands j b hj).made_of_given hb)
  obtain rfl := Option.some.inj (hi.symm.trans hj)
  cases hg.symm.trans hb

/-- What a session was given is there. -/
lemma found (h : x.Attended) (hi : x.applicants[i]? = some a) (hg : a.given? = some ref) :
    ∃ d, x.shared.delivery? ref = some d :=
  (h.stands i a hi).found ((h.stands i a hi).made_of_given hg)

lemma minds (h : x.Attended) (hd : x.shared.Minds (¬ x.IsGiven ·) x'.shared)
    (hi : x.applicants[i]? = some a) : a.Stands x'.shared :=
  (h.stands i a hi).minds hd fun _ hm hg => h.not_isGiven hi hm hg

/-- No request goes on. -/
lemma same (h : x.Attended) (hx : x'.applicants = x.applicants)
    (hk : ∀ session, x.IsKnown session → x'.IsKnown session)
    (hd : x.shared.Minds (¬ x.IsGiven ·) x'.shared) : x'.Attended := by
  refine ⟨?_, ?_, ?_⟩
  · rw [hx]
    exact fun i a hi => (h.asked i a hi).imp_left (hk _)
  · rw [hx]
    exact fun i a hi => h.minds hd hi
  · rw [hx]
    exact h.apart

/-- One request goes on. What is made for it now was made for no other. -/
lemma set (h : x.Attended) (hi : x.applicants[i]? = some a)
    (hx : x'.applicants = x.applicants.set i a') (ha : a'.asking = a.asking)
    (hk : ∀ session, x.IsKnown session → x'.IsKnown session)
    (hd : x.shared.Minds (¬ x.IsGiven ·) x'.shared)
    (hm : a'.made = a.made ∨ ∃ ref, a'.made = some ref ∧ x.shared.delivery? ref = none)
    (hs : a'.Stands x'.shared) : x'.Attended := by
  have hmade : ∀ (j : Nat) (b : Applicant) (ref : DeliveryRef), j ≠ i →
      x.applicants[j]? = some b → b.made = some ref → a'.made ≠ some ref := by
    intro j b ref hne hj hb hc
    rcases hm with hm | ⟨made, hmade, hnone⟩
    · exact hne (h.apart j i b a ref hj hi hb (hm.symm.trans hc))
    · obtain rfl := Option.some.inj (hmade.symm.trans hc)
      obtain ⟨d, hd⟩ := (h.stands j b hj).found hb
      cases hnone.symm.trans hd
  refine ⟨?_, ?_, ?_⟩ <;> rw [hx]
  · intro j b hj
    rcases Running.Valid.getElem?_set_cases hj with ⟨-, rfl⟩ | ⟨-, hj⟩
    · rw [ha]
      exact (h.asked i a hi).imp_left (hk _)
    · exact (h.asked j b hj).imp_left (hk _)
  · intro j b hj
    rcases Running.Valid.getElem?_set_cases hj with ⟨-, rfl⟩ | ⟨-, hj⟩
    · exact hs
    · exact h.minds hd hj
  · intro j k b c ref hj hk hb hc
    rcases Running.Valid.getElem?_set_cases hj with ⟨rfl, rfl⟩ | ⟨hne, hj'⟩ <;>
      rcases Running.Valid.getElem?_set_cases hk with ⟨rfl, rfl⟩ | ⟨hne', hk'⟩
    · rfl
    · exact absurd hb (hmade k c ref hne' hk' hc)
    · exact absurd hc (hmade j b ref hne hj' hb)
    · exact h.apart j k b c ref hj' hk' hb hc

end Attended

/-- No request goes on. A session that loses what it holds is closed, and whoever closes it takes
care of that. -/
structure Rests (x x' : Desk μ) : Prop where
  applicants : x'.applicants = x.applicants
  known : ∀ session, x.IsKnown session → x'.IsKnown session
  deliveries : x.shared.Minds (¬ x.IsGiven ·) x'.shared
  slot : ∀ session ref, x'.slot session = some ref → x.slot session = some ref
  released : ∀ session ref, x.slot session = some ref →
    x'.slot session = some ref ∨ x'.IsClosed session ∧ x'.IsEnding ref
  closed : ∀ session, x.IsClosed session → x'.IsClosed session
  ending : ∀ ref, x.IsEnding ref → x'.shared.isFinished ref ∨ x'.IsEnding ref
  marks : ∀ session, .mark session ∈ x'.teardowns → x'.IsKnown session
  takes : ∀ session, .take session ∈ x'.teardowns → x'.IsClosed session

lemma Sound.rests (h : x.Sound) (hr : x.Rests x') (hn : x'.shared.Numbered x'.guests) :
    x'.Sound := by
  refine ⟨h.same hr.applicants hr.known hr.deliveries, hn, ?_, ?_, hr.marks, hr.takes⟩
  · rw [hr.applicants]
    intro i a ref hi hg
    rcases h.held i a ref hi hg with hf | hs | ⟨hc, he⟩
    · obtain ⟨d, hd⟩ := h.found hi hg
      exact .inl (hr.deliveries.finished hd hf)
    · exact .inr (hr.released _ _ hs)
    · exact (hr.ending ref he).imp_right fun he => .inr ⟨hr.closed _ hc, he⟩
  · rw [hr.applicants]
    exact fun session ref hs => h.slots session ref (hr.slot session ref hs)

/-- A move that leaves sessions what they hold, and whoever closes sessions where they are. -/
lemma Sound.rests_of_holds (h : x.Sound) (ha : x'.applicants = x.applicants)
    (ht : x'.teardowns = x.teardowns) (hs : x.shared.sessions.Holds x'.shared.sessions)
    (hl : x.shared.sessions.records.length ≤ x'.shared.sessions.records.length)
    (hd : x.shared.Minds (¬ x.IsGiven ·) x'.shared) : x.Rests x' := by
  have hknown : ∀ session, x.IsKnown session → x'.IsKnown session :=
    fun session hk => Nat.lt_of_lt_of_le hk hl
  have hclosed : ∀ session, x.IsClosed session → x'.IsClosed session :=
    fun session => (hs.closed session).mpr
  refine ⟨ha, hknown, hd, ?_, ?_, hclosed, ?_, ?_, ?_⟩
  · intro session ref hslot
    exact (hs.subscription session).symm.trans hslot
  · intro session ref hslot
    exact .inl ((hs.subscription session).trans hslot)
  · intro ref he
    rw [IsEnding, ht]
    exact .inr he
  · rw [ht]
    exact fun session hm => hknown session (h.marks session hm)
  · rw [ht]
    exact fun session hm => hclosed session (h.takes session hm)

/-! ## A request goes on -/

section Going

variable {i : Nat} {a a' : Applicant}

/-- A request goes on and no session is given anything. -/
lemma Sound.goes (h : x.Sound) (hi : x.applicants[i]? = some a)
    (hx : x'.applicants = x.applicants.set i a') (ht : x'.teardowns = x.teardowns)
    (hs : x'.shared.sessions = x.shared.sessions)
    (hd : x.shared.Minds (¬ x.IsGiven ·) x'.shared) (hn : x'.shared.Numbered x'.guests)
    (ha : a'.asking = a.asking) (hg : a'.given? = a.given?)
    (hm : a'.made = a.made ∨ ∃ ref, a'.made = some ref ∧ x.shared.delivery? ref = none)
    (hstands : a'.Stands x'.shared) : x'.Sound := by
  have hknown : ∀ session, x'.IsKnown session ↔ x.IsKnown session := by
    intro session
    rw [IsKnown, hs, IsKnown]
  refine ⟨h.set hi hx ha (fun session => (hknown session).mpr) hd hm hstands, hn, ?_, ?_, ?_, ?_⟩
  · intro j b ref hj hb
    -- where the request has gone to, its session was given what it was given before
    obtain ⟨b', hj', hasking, hgiven⟩ : ∃ b', x.applicants[j]? = some b' ∧
        b.asking = b'.asking ∧ b.given? = b'.given? := by
      rw [hx] at hj
      rcases Running.Valid.getElem?_set_cases hj with ⟨rfl, rfl⟩ | ⟨-, hj⟩
      · exact ⟨a, hi, ha, hg⟩
      · exact ⟨b, hj, rfl, rfl⟩
    rw [hgiven] at hb
    rw [hasking, slot, IsClosed, hs, IsEnding, ht]
    refine (h.held j b' ref hj' hb).imp_left fun hf => ?_
    obtain ⟨d, hd'⟩ := h.found hj' hb
    exact hd.finished hd' hf
  · intro session ref hslot
    rw [slot, hs] at hslot
    obtain ⟨j, b, hj, hsession, hb⟩ := h.slots session ref hslot
    by_cases he : j = i
    · subst he
      obtain rfl := Option.some.inj (hi.symm.trans hj)
      refine ⟨j, a', ?_, ha ▸ hsession, hg.trans hb⟩
      rw [hx, List.getElem?_set_self (List.getElem?_eq_some_iff.mp hi).1]
    · refine ⟨j, b, ?_, hsession, hb⟩
      rw [hx, List.getElem?_set_ne (Ne.symm he)]
      exact hj
  · rw [ht]
    exact fun session hmark => (hknown session).mpr (h.marks session hmark)
  · rw [ht]
    intro session htake
    rw [IsClosed, hs]
    exact h.takes session htake

/-- A session is given a subscription, which it held none of that had not ended. -/
lemma Sound.attaches (h : x.Sound) {ref : DeliveryRef} {d : Event.Delivery}
    (hi : x.applicants[i]? = some a) (hx : x'.applicants = x.applicants.set i a')
    (ht : x'.teardowns = x.teardowns) (hguests : x'.guests = x.guests)
    (hwas : a.made = some ref) (hd : x.shared.delivery? ref = some d)
    (hfree : (x.slot a.asking.session).all x.shared.isFinished)
    (hnext : a'.stage = .done ⟨.ok, false, some ref⟩) (ha : a'.asking = a.asking)
    (hm : a'.made = some ref)
    (hs : x'.shared =
      { x.shared with
        sessions :=
          x.shared.sessions.update a.asking.session ({ · with subscription := some ref }) }) :
    x'.Sound := by
  have hgiven : a'.given? = some ref := by simp [Applicant.given?, hnext]
  have hfinished : ∀ other, x'.shared.isFinished other = x.shared.isFinished other := by
    intro other
    rw [hs]
    rfl
  have hself : x'.slot a.asking.session = some ref := by
    rw [slot, hs, Registry.record_update, if_pos ⟨rfl, (h.asked i a hi).1⟩]
  have hother : ∀ session, a.asking.session ≠ session → x'.slot session = x.slot session := by
    intro session hne
    rw [slot, hs, Registry.record_update_of_ne _ _ hne, slot]
  have hclosed : ∀ session, x'.IsClosed session ↔ x.IsClosed session := by
    intro session
    rw [IsClosed, hs, Registry.record_update]
    split <;> rfl
  have hknown : ∀ session, x'.IsKnown session ↔ x.IsKnown session := by
    intro session
    rw [IsKnown, hs, IsKnown]
    simp [Registry.update]
  refine ⟨h.set hi hx ha (fun session => (hknown session).mpr)
    (Shared.minds_of_same (by rw [hs])) (.inl (hm.trans hwas.symm)) ?_, ?_, ?_, ?_, ?_, ?_⟩
  · exact .given ref d hnext hm (by rw [hs]; exact hd)
  · rw [hs, hguests]
    exact h.numbered.keeps rfl (Nat.le_refl _) fun _ => rfl
  · intro j b other hj hb
    rw [hx] at hj
    rcases Running.Valid.getElem?_set_cases hj with ⟨-, rfl⟩ | ⟨-, hj⟩
    · obtain rfl := Option.some.inj (hgiven.symm.trans hb)
      rw [ha]
      exact .inr (.inl hself)
    · rw [hfinished, hclosed, IsEnding, ht]
      by_cases he : a.asking.session = b.asking.session
      · -- what the session has held makes way only if it has ended
        rcases h.held j b other hj hb with hf | hslot | hc
        · exact .inl hf
        · rw [he, hslot] at hfree
          exact .inl hfree
        · exact .inr (.inr hc)
      · rw [hother _ he]
        exact h.held j b other hj hb
  · intro session other hslot
    by_cases he : a.asking.session = session
    · subst he
      obtain rfl := Option.some.inj (hself.symm.trans hslot)
      refine ⟨i, a', ?_, by rw [ha], hgiven⟩
      rw [hx, List.getElem?_set_self (List.getElem?_eq_some_iff.mp hi).1]
    · rw [hother _ he] at hslot
      obtain ⟨j, b, hj, hsession, hb⟩ := h.slots session other hslot
      refine ⟨j, b, ?_, hsession, hb⟩
      rw [hx, List.getElem?_set_ne]
      · exact hj
      · rintro rfl
        obtain rfl := Option.some.inj (hi.symm.trans hj)
        exact he hsession
  · rw [ht]
    exact fun session hmark => (hknown session).mpr (h.marks session hmark)
  · rw [ht]
    exact fun session htake => (hclosed session).mpr (h.takes session htake)

variable [Device.DeviceModule μ]

/-- A request makes a step. -/
lemma Sound.step (h : x.Sound) (hi : x.applicants[i]? = some a) (env : Environment)
    (hn : x.bus.nextId + a.stage.isOrdering.toNat < subscriberBound) :
    (x.act (.step i env)).Sound ∧
      (x.act (.step i env)).bus.nextId ≤ x.bus.nextId + a.stage.isOrdering.toNat := by
  have hsteps := Applicant.steps (h.stands i a hi) (h.asked i a hi).2 env
  have hasking := Applicant.asking_step env a x.shared
  rw [act_step hi]
  generalize (a.step env x.shared).value = a' at hsteps hasking
  generalize (a.step env x.shared).state = s' at hsteps
  -- all but two steps change nothing that is shared
  have hstill : s' = x.shared → a'.given? = a.given? → a'.made = a.made → a'.Stands x.shared →
      Sound { x with shared := s', applicants := x.applicants.set i a' } ∧
        s'.modules.bus.nextId ≤ x.bus.nextId + a.stage.isOrdering.toNat := by
    rintro rfl hg hm hstands
    exact ⟨h.goes hi rfl rfl rfl (Shared.minds_of_same rfl) h.numbered hasking hg (.inl hm)
      hstands, Nat.le_add_right _ _⟩
  cases hsteps with
  | proceeds stage was next made shared =>
    refine hstill shared ?_ made (.early next (made.trans was))
    rw [Applicant.given?_of_isEarly stage, Applicant.given?_of_isEarly next]
  | refused e stage was next made shared =>
    refine hstill shared ?_ made (.refused e next ?_)
    · rw [Applicant.given?_of_isEarly stage, Applicant.given?_of_refusal next]
    · rw [made, was]
      exact nofun
  | unstarted window e stage was next made shared =>
    have hearly : a.stage.isEarly := by rw [stage]; rfl
    rw [Event.Bus.unsubscribe_subscribe h.numbered.fresh] at shared
    have hnext : s'.modules.bus.nextId = x.bus.nextId + 1 := by
      rw [stage] at hn
      rw [shared]
      exact Nat.mod_eq_of_lt hn
    have hnumbered : s'.Numbered x.guests := by
      refine h.numbered.keeps (by rw [shared]; rfl) ?_ fun ref => Shared.ticket?_congr ?_ ref
      · rw [hnext]
        exact Nat.le_succ _
      · rw [shared]
    refine ⟨h.goes hi rfl rfl (by rw [shared]) (Shared.minds_of_same (by rw [shared])) hnumbered
      hasking ?_ (.inl made) (.refused e next ?_), by rw [stage]; exact Nat.le_of_eq hnext⟩
    · rw [Applicant.given?_of_isEarly hearly, Applicant.given?_of_refusal next]
    · rw [made, was]
      exact nofun
  | subscribes window stage was next made shared =>
    have hearly : a.stage.isEarly := by rw [stage]; rfl
    have hnext : s'.modules.bus.nextId = x.bus.nextId + 1 := by
      rw [stage] at hn
      rw [shared]
      exact Nat.mod_eq_of_lt hn
    obtain ⟨d, hd, hsubscriber, hrunning, hsealed⟩ : ∃ d : Event.Delivery,
        s'.deliveries = x.shared.deliveries ++ [d] ∧ d.subscriber = x.bus.nextId ∧
          d.isFinished = false ∧ Sealed d :=
      ⟨_, by rw [shared], rfl, rfl, Event.Gate.noConfusion, rfl⟩
    have hmade : s'.delivery? ⟨x.shared.deliveries.length⟩ = some d := by
      rw [Shared.delivery?, hd]
      exact List.getElem?_concat_length
    have hnumbered : s'.Numbered x.guests := by
      refine h.numbered.subscribes ?_ hnext hsubscriber hrunning hd
      rw [shared]
      exact Event.Bus.numbers_subscribe _ window.start window.stop
    refine ⟨h.goes hi rfl rfl (by rw [shared]) (Shared.minds_concat hd) hnumbered hasking ?_
      (.inr ⟨_, made, ?_⟩) (.pending _ d (.inl next) made hmade hsealed),
      by rw [stage]; exact Nat.le_of_eq hnext⟩
    · rw [Applicant.given?_of_isEarly hearly]
      simp [Applicant.given?, next]
    · exact List.getElem?_eq_none (Nat.le_refl _)
  | attaches ref d stage was delivery free next made shared =>
    refine ⟨h.attaches hi rfl rfl rfl was delivery free next hasking (made.trans was) shared, ?_⟩
    dsimp only [bus]
    rw [shared]
    exact Nat.le_add_right _ _
  | overtaken ref d stage was delivery isSealed next made shared =>
    refine hstill shared ?_ made (.pending ref d (.inr next) (made.trans was) delivery isSealed)
    simp [Applicant.given?, stage, next]
  | withdraws ref d stage was delivery isSealed next made shared =>
    have hstays : ∀ d : Event.Delivery, d.Stays d.halt := fun _ => ⟨rfl, rfl, .inr rfl⟩
    have hminds : x.shared.Minds (¬ x.IsGiven ·) s' := by
      rw [shared]
      exact Shared.minds_modify (fun _ => rfl) fun _ d => bides_of_stays (hstays d) fun _ => rfl
    have hnumbered : s'.Numbered x.guests := by
      rw [shared]
      exact h.numbered.keeps rfl (Nat.le_refl _) (Shared.ticket?_modify rfl fun _ => ⟨rfl, rfl⟩)
    refine ⟨h.goes hi rfl rfl (by rw [shared]) hminds hnumbered hasking ?_ (.inl made)
      (.ousted ref d.halt next (made.trans was) ?_ (isSealed.stays (hstays d)) ⟨rfl, rfl⟩), ?_⟩
    · simp [Applicant.given?, stage, next]
    · rw [shared]
      exact Shared.delivery?_modify delivery _
    · dsimp only [bus]
      rw [shared]
      exact Nat.le_add_right _ _
  | ends ref d stage was delivery finished next made shared =>
    refine hstill shared ?_ made (.refused _ next fun other ho => ?_)
    · rw [Applicant.given?_of_refusal next]
      simp [Applicant.given?, stage]
    · obtain rfl := Option.some.inj (was.symm.trans (made.symm.trans ho))
      exact ⟨d, delivery, (Shared.isFinished_iff delivery).mp finished⟩
  | rests applicant shared =>
    subst applicant
    exact hstill shared rfl rfl (h.stands i a' hi)

end Going

/-! ## All other moves -/

/-- Where a thread that closes a session goes on, the others are where they were. -/
lemma teardowns_set {index : Nat} {c next other : Closing} (hi : x.teardowns[index]? = some c)
    (ho : other ∈ x.teardowns) : other = c ∨ other ∈ x.teardowns.set index next := by
  obtain ⟨j, hj⟩ := List.mem_iff_getElem?.mp ho
  by_cases he : index = j
  · subst he
    exact .inl (Option.some.inj (hj.symm.trans hi))
  · refine .inr (List.mem_of_getElem? (i := j) ?_)
    rw [List.getElem?_set_ne he]
    exact hj

/-- A thread that closes a session goes on. What it takes from a session it is to end next. -/
lemma Sound.rests_set (h : x.Sound) {index : Nat} {c next : Closing} {s' : Shared μ}
    (hi : x.teardowns[index]? = some c)
    (hx : x' = { x with shared := s', teardowns := x.teardowns.set index next })
    (hl : s'.sessions.records.length = x.shared.sessions.records.length)
    (hd : x.shared.Minds (¬ x.IsGiven ·) s')
    (hslot : ∀ session, x'.slot session = x.slot session ∨ x'.slot session = none ∧
      x.IsClosed session ∧ ∀ ref, x.slot session = some ref → next = .cancel ref)
    (hclosed : ∀ session, x.IsClosed session → x'.IsClosed session)
    (hc : ∀ ref, c = .cancel ref ∨ c = .join ref → s'.isFinished ref ∨ next = .join ref)
    (hmark : ∀ session, next ≠ .mark session)
    (htake : ∀ session, next = .take session → x'.IsClosed session) : x.Rests x' := by
  have hknown : ∀ session, x'.IsKnown session ↔ x.IsKnown session := by
    intro session
    rw [IsKnown, hx, IsKnown, hl]
  have hnext : next ∈ x'.teardowns := by
    rw [hx]
    exact List.mem_set (List.getElem?_eq_some_iff.mp hi).1 next
  have hkept : ∀ other ∈ x.teardowns, other = c ∨ other ∈ x'.teardowns := by
    rw [hx]
    exact fun other ho => teardowns_set hi ho
  have hcases : ∀ other ∈ x'.teardowns, other ∈ x.teardowns ∨ other = next := by
    rw [hx]
    exact fun other ho => List.mem_or_eq_of_mem_set ho
  have hdeliveries : x'.shared = s' := by rw [hx]
  refine ⟨by rw [hx], fun session => (hknown session).mpr, by rw [hdeliveries]; exact hd, ?_, ?_,
    hclosed, ?_, ?_, ?_⟩
  · intro session ref hr
    rcases hslot session with hs | ⟨hs, -⟩
    · exact hs.symm.trans hr
    · cases hs.symm.trans hr
  · intro session ref hr
    rcases hslot session with hs | ⟨-, hs, he⟩
    · exact .inl (hs.trans hr)
    · rw [he ref hr] at hnext
      exact .inr ⟨hclosed session hs, .inl hnext⟩
  · have hended : ∀ ref, c = .cancel ref ∨ c = .join ref →
        x'.shared.isFinished ref ∨ x'.IsEnding ref := by
      intro ref hr
      rw [hdeliveries]
      refine (hc ref hr).imp_right fun he => .inr ?_
      rw [he] at hnext
      exact hnext
    rintro ref (hm | hm) <;> rcases hkept _ hm with he | hm
    · exact hended ref (.inl he.symm)
    · exact .inr (.inl hm)
    · exact hended ref (.inr he.symm)
    · exact .inr (.inr hm)
  · intro session hm
    rcases hcases _ hm with hm | he
    · exact (hknown session).mpr (h.marks session hm)
    · exact absurd he.symm (hmark session)
  · intro session hm
    rcases hcases _ hm with hm | he
    · exact hclosed session (h.takes session hm)
    · exact htake session he.symm

lemma Sound.rests_closing (h : x.Sound) {index : Nat} {c next : Closing} {s' : Shared μ}
    (hi : x.teardowns[index]? = some c) (hg : c.Goes x.shared next s') :
    x.Rests { x with shared := s', teardowns := x.teardowns.set index next } := by
  have hmem : c ∈ x.teardowns := List.mem_of_getElem? hi
  have hsame : ∀ session, x.slot session = x.slot session ∨ x.slot session = none ∧
      x.IsClosed session ∧ ∀ ref, x.slot session = some ref → next = .cancel ref :=
    fun _ => .inl rfl
  cases hg with
  | marks session =>
    have hrecord : ∀ other, (x.shared.sessions.markClosed session).record other = _ :=
      fun other => Registry.record_update _ _ _ _
    refine h.rests_set hi rfl (List.length_modify _ _ _) (Shared.minds_of_same rfl) ?_ ?_ ?_
      (fun _ => Closing.noConfusion) ?_
    · intro other
      refine .inl ?_
      rw [slot, hrecord]
      split <;> rfl
    · intro other hc
      rw [IsClosed, hrecord]
      split
      · rfl
      · exact hc
    · rintro ref (hc | hc) <;> cases hc
    · rintro other he
      obtain rfl := Closing.take.inj he
      rw [IsClosed, hrecord, if_pos ⟨rfl, h.marks session hmem⟩]
  | takes session delivery held =>
    refine h.rests_set hi rfl (List.length_modify _ _ _) (Shared.minds_of_same rfl) ?_ ?_ ?_
      (fun _ => Closing.noConfusion) fun _ => Closing.noConfusion
    · intro other
      rw [slot, Registry.subscription_takeSubscription]
      split
      · subst other
        refine .inr ⟨rfl, h.takes session hmem, fun ref hr => ?_⟩
        rw [Option.some.inj (held.symm.trans hr)]
      · exact .inl rfl
    · intro other hc
      rw [IsClosed, Registry.status_takeSubscription]
      exact hc
    · rintro ref (hc | hc) <;> cases hc
  | findsNone session held =>
    refine h.rests_set hi rfl (List.length_modify _ _ _) (Shared.minds_of_same rfl) ?_ ?_ ?_
      (fun _ => Closing.noConfusion) fun _ => Closing.noConfusion
    · intro other
      refine .inl ?_
      rw [slot, Registry.subscription_takeSubscription]
      split
      · subst other
        exact held.symm
      · rfl
    · intro other hc
      rw [IsClosed, Registry.status_takeSubscription]
      exact hc
    · rintro ref (hc | hc) <;> cases hc
  | cancels delivery =>
    refine h.rests_set hi rfl rfl ?_ hsame (fun _ => id) ?_ (fun _ => Closing.noConfusion)
      fun _ => Closing.noConfusion
    · refine Shared.minds_modify (fun _ => rfl) fun _ d => ?_
      exact bides_of_stays ⟨rfl, rfl, .inl rfl⟩ fun _ => rfl
    · rintro ref (hc | hc) <;> cases hc
      exact .inr rfl
  | joins delivery finished =>
    refine h.rests_set hi rfl rfl (Shared.minds_of_same rfl) hsame (fun _ => id) ?_
      (fun _ => Closing.noConfusion) fun _ => Closing.noConfusion
    rintro ref (hc | hc) <;> cases hc
    exact .inl finished
  | waits delivery running =>
    refine h.rests_set hi rfl rfl (Shared.minds_of_same rfl) hsame (fun _ => id) ?_
      (fun _ => Closing.noConfusion) fun _ => Closing.noConfusion
    rintro ref (hc | hc) <;> cases hc
    exact .inr rfl
  | rests =>
    refine h.rests_set hi rfl rfl (Shared.minds_of_same rfl) hsame (fun _ => id) ?_
      (fun _ => Closing.noConfusion) fun _ => Closing.noConfusion
    rintro ref (hc | hc) <;> cases hc

/-- A session asks for a subscription. -/
lemma Sound.asks (h : x.Sound) {asking : Asking} (hk : x.IsKnown asking.session)
    (hr : Route.ofRequest asking.request = .subscribe) :
    Sound { x with applicants := x.applicants ++ [⟨asking, .routing, none⟩] } := by
  refine ⟨⟨?_, ?_, ?_⟩, h.numbered, ?_, ?_, h.marks, h.takes⟩
  · intro i a hi
    rcases Running.Valid.getElem?_concat hi with hi | rfl
    · exact h.asked i a hi
    · exact ⟨hk, hr⟩
  · intro i a hi
    rcases Running.Valid.getElem?_concat hi with hi | rfl
    · exact h.stands i a hi
    · exact .early rfl rfl
  · intro i j a b ref hi hj ha hb
    rcases Running.Valid.getElem?_concat hi with hi | rfl
    · rcases Running.Valid.getElem?_concat hj with hj | rfl
      · exact h.apart i j a b ref hi hj ha hb
      · cases hb
    · cases ha
  · intro i a ref hi hg
    rcases Running.Valid.getElem?_concat hi with hi | rfl
    · exact h.held i a ref hi hg
    · cases hg
  · intro session ref hs
    obtain ⟨i, a, hi, ha⟩ := h.slots session ref hs
    exact ⟨i, a, (List.getElem?_append_left (List.getElem?_eq_some_iff.mp hi).1).trans hi, ha⟩

/-- A thread begins to close a session. -/
lemma Sound.closes (h : x.Sound) {session : Ref} (hk : x.IsKnown session) :
    Sound { x with teardowns := x.teardowns ++ [.mark session] } := by
  refine ⟨⟨h.asked, h.stands, h.apart⟩, h.numbered, ?_, h.slots, ?_, ?_⟩
  · intro i a ref hi hg
    refine (h.held i a ref hi hg).imp_right (Or.imp_right (And.imp_right ?_))
    exact Or.imp (List.mem_append_left _) (List.mem_append_left _)
  · intro other hm
    rcases List.mem_append.mp hm with hm | hm
    · exact h.marks other hm
    · rw [Closing.mark.inj (List.mem_singleton.mp hm)]
      exact hk
  · intro other hm
    rcases List.mem_append.mp hm with hm | hm
    · exact h.takes other hm
    · cases List.mem_singleton.mp hm

variable [Device.DeviceModule μ]

/-- No move breaks what holds of a desk, and numbers of subscribers are taken one by one. -/
lemma Sound.act (h : x.Sound) (m : Move μ)
    (hn : x.bus.nextId + (x.orders m).toNat < subscriberBound) :
    (x.act m).Sound ∧ (x.act m).bus.nextId ≤ x.bus.nextId + (x.orders m).toNat := by
  have hsame : ∀ {x' : Desk μ}, x.Rests x' → x'.shared.Numbered x'.guests →
      x'.bus.nextId = x.bus.nextId → x'.Sound ∧ x'.bus.nextId ≤ x.bus.nextId + (x.orders m).toNat :=
    fun hr hn hb => ⟨h.rests hr hn, hb ▸ Nat.le_add_right _ _⟩
  have hidle : x.Sound ∧ x.bus.nextId ≤ x.bus.nextId + (x.orders m).toNat :=
    ⟨h, Nat.le_add_right _ _⟩
  -- a move that does something to one delivery and leaves its number and its stage alone
  have hmodify : ∀ (ref : DeliveryRef) (f : Event.Delivery → Event.Delivery),
      (∀ d, (f d).subscriber = d.subscriber ∧ (f d).stage = d.stage) →
      (¬ x.IsGiven ref → ∀ d, Bides d (f d)) →
      Sound { x with
          shared := { x.shared with deliveries := x.shared.deliveries.modify ref.number f } } ∧
        x.bus.nextId ≤ x.bus.nextId + (x.orders m).toNat := by
    intro ref f hf hb
    refine hsame (h.rests_of_holds rfl rfl (Std.Refl.refl _) (Nat.le_refl _)
      (Shared.minds_modify (fun d => (hf d).2) hb)) ?_ rfl
    exact h.numbered.keeps rfl (Nat.le_refl _) (Shared.ticket?_modify rfl hf)
  cases m with
  | ask asking =>
    rw [Desk.act]
    split
    · rename_i hask
      exact ⟨h.asks hask.1 hask.2, Nat.le_add_right _ _⟩
    · exact hidle
  | step i env =>
    cases hi : x.applicants[i]? with
    | none =>
      rw [act_step_of_none hi]
      exact hidle
    | some a =>
      have horders : x.orders (.step i env) = a.stage.isOrdering := by simp [orders, hi]
      rw [horders] at hn ⊢
      exact h.step hi env hn
  | answer i gate =>
    cases hg : x.applicants[i]?.bind (·.given?) with
    | none =>
      have hact : x.act (.answer i gate) = x := by simp [Desk.act, hg]
      rw [hact]
      exact hidle
    | some ref =>
      have hact : x.act (.answer i gate) =
          { x with shared := (Shared.setGate ref gate x.shared).state } := by simp [Desk.act, hg]
      obtain ⟨a, hi, ha⟩ := Option.bind_eq_some_iff.mp hg
      rw [hact]
      exact hmodify ref _ (fun _ => ⟨rfl, rfl⟩) fun hc => absurd ⟨i, a, hi, ha⟩ hc
  | deliver now ref =>
    obtain ⟨hsessions, -⟩ := Shared.deliver_alone now ref x.shared
    refine hsame (h.rests_of_holds rfl rfl ?_ ?_ (Shared.minds_deliver now ref))
      (h.numbered.delivers now ref) (Shared.nextId_deliver now ref x.shared)
    · rw [Desk.act, hsessions]
      exact Std.Refl.refl _
    · exact Nat.le_of_eq (congrArg (·.records.length) hsessions).symm
  | cancel ref =>
    refine hmodify ref _ (fun _ => ⟨rfl, rfl⟩) fun _ d => ?_
    exact bides_of_stays ⟨rfl, rfl, .inl rfl⟩ fun _ => rfl
  | close session =>
    rw [Desk.act]
    split
    · exact ⟨h.closes ‹_›, Nat.le_add_right _ _⟩
    · exact hidle
  | goOn index =>
    cases hi : x.teardowns[index]? with
    | none =>
      have hact : x.act (.goOn index) = x := by simp [Desk.act, hi]
      rw [hact]
      exact hidle
    | some c =>
      have hact : x.act (.goOn index) =
          { x with
            shared := (c.step x.shared).state
            teardowns := x.teardowns.set index (c.step x.shared).value } := by
        simp [Desk.act, hi]
      have hgoes := c.goes_step x.shared
      rw [hact]
      generalize (c.step x.shared).state = s' at hgoes
      generalize (c.step x.shared).value = next at hgoes
      have hbus : s'.modules = x.shared.modules ∧ ∀ ref, s'.ticket? ref = x.shared.ticket? ref := by
        cases hgoes with
        | cancels delivery =>
          exact ⟨rfl, Shared.ticket?_modify rfl fun _ => ⟨rfl, rfl⟩⟩
        | _ => exact ⟨rfl, fun _ => rfl⟩
      have hnext : s'.modules.bus.nextId = x.bus.nextId := by rw [hbus.1, bus]
      refine hsame (h.rests_closing hi hgoes) ?_ hnext
      exact h.numbered.keeps (by rw [hbus.1]) (Nat.le_of_eq hnext.symm) hbus.2
  | guest op =>
    rw [Desk.act]
    split
    · rename_i ho
      obtain ⟨hnumbered, hle⟩ := h.numbered.serves ho hn
      refine ⟨h.rests (h.rests_of_holds rfl rfl (Std.Refl.refl _) (Nat.le_refl _)
        (Shared.minds_of_same rfl)) hnumbered, hle⟩
    · exact hidle
  | renew modules isShuttingDown =>
    refine hsame (h.rests_of_holds rfl rfl (Std.Refl.refl _) (Nat.le_refl _)
      (Shared.minds_of_same rfl)) ?_ rfl
    exact h.numbered.keeps rfl (Nat.le_refl _) fun _ => rfl
  | other disturbance =>
    rw [Desk.act]
    split
    · rename_i hforeign
      have hignores := disturbance.ignores hforeign x.shared
      have hbus : (disturbance.act x.shared).modules.bus = x.bus := by rw [hignores.modules, bus]
      refine hsame (h.rests_of_holds rfl rfl hignores.sessions hignores.records
        (Shared.minds_of_same hignores.deliveries)) ?_ (congrArg Event.Bus.nextId hbus)
      refine h.numbered.keeps (congrArg Event.Bus.numbers hbus) ?_ ?_
      · exact Nat.le_of_eq (congrArg Event.Bus.nextId hbus).symm
      · exact Shared.ticket?_congr hignores.deliveries
    · exact hidle

/-- A run that takes fewer numbers of subscribers than there are. -/
lemma Sound.after (h : x.Sound) (moves : List (Move μ))
    (hn : x.bus.nextId + x.subscriptions moves < subscriberBound) :
    (x.after moves).Sound ∧ (x.after moves).bus.nextId ≤ x.bus.nextId + x.subscriptions moves := by
  induction moves generalizing x with
  | nil => exact ⟨h, Nat.le_refl _⟩
  | cons m rest ih =>
    rw [subscriptions] at hn ⊢
    obtain ⟨hsound, hle⟩ := h.act m (by omega)
    obtain ⟨hlast, hle'⟩ := ih hsound (by omega)
    have hmore : (x.act m).bus.nextId + (x.act m).subscriptions rest ≤
        x.bus.nextId + ((x.orders m).toNat + (x.act m).subscriptions rest) := by omega
    exact ⟨hlast, Nat.le_trans hle' hmore⟩

lemma subscriptions_append (x : Desk μ) (moves rest : List (Move μ)) :
    x.subscriptions (moves ++ rest) =
      x.subscriptions moves + (x.after moves).subscriptions rest := by
  induction moves generalizing x with
  | nil => simp [subscriptions, Desk.after]
  | cons m moves ih =>
    rw [List.cons_append, subscriptions, subscriptions, ih, Nat.add_assoc]
    rfl

/-- Wherever a run is cut, the rest of it has enough numbers left. -/
lemma Sound.cut (h : x.Sound) {moves earlier later : List (Move μ)} (hm : moves = earlier ++ later)
    (hn : x.bus.nextId + x.subscriptions moves < subscriberBound) :
    (x.after earlier).Sound ∧
      (x.after earlier).bus.nextId + (x.after earlier).subscriptions later < subscriberBound := by
  rw [hm, subscriptions_append] at hn
  obtain ⟨hsound, hle⟩ := h.after earlier (by omega)
  exact ⟨hsound, by omega⟩

end Desk

end Server

end ManagementServer
