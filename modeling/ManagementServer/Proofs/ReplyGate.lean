import ManagementServer.Proofs.Answers
import ManagementServer.Proofs.DeliveryCourse
import ManagementServer.Proofs.SubscriptionTurns

/-!
# The gate of a delivery

A delivery writes behind the answer to the request that has made it, and nothing at all when that
answer cannot be written. `Running.entries` is what a run writes of the two, and `Running.Gated`
what every turn keeps of it.
-/

namespace ManagementServer.Server

open Session (DeliveryRef)

variable {μ : Type}

/-! ## What is written of an answer and of its delivery -/

/-- What becomes of the answer to the request that has made a delivery, and what the delivery
writes. -/
inductive Entry where
  | answered (socket : SocketId) (message : Protocol.ServerMessage)
  | unanswered
  | notified (note : Event.Note)

/-- What a loop is about to write of the request that has made a delivery. -/
def Loop.tells? (l : Loop) (ref : DeliveryRef) (s : Shared μ) : Option Entry :=
  match l.phase with
  | .replying request outcome =>
    if outcome.gate = some ref then
      match (s.socket l.socket).writeFault? with
      | none => some (.answered l.socket (replyMessage request outcome.reply))
      | some _ => some .unanswered
    else none
  | _ => none

/-- What a delivery is about to write. -/
def Shared.tells? (now : Time.Instant) (ref : DeliveryRef) (s : Shared μ) : Option Entry :=
  match s.beat? now ref with
  | some (.wrote note) => some (.notified note)
  | _ => none

namespace Running

/-- What a turn writes of a delivery and of the request that has made it. -/
def tells? (ref : DeliveryRef) (s : Running μ) : Turn μ → Option Entry
  | .move _ (.loop index _) => s.loops[index]?.bind fun l => l.tells? ref s.shared
  | .move env (.deliver other) => if other = ref then s.shared.tells? env.now ref else none
  | _ => none

def entries [Device.DeviceModule μ] (ref : DeliveryRef) (s : Running μ) : List (Turn μ) → List Entry
  | [] => []
  | t :: rest => (s.tells? ref t).toList ++ entries ref (Turn.act s t) rest

lemma tells?_of_isAside {t : Turn μ} {s : Running μ} (ref : DeliveryRef) (h : t.IsAside s) :
    s.tells? ref t = none := by
  unfold Turn.IsAside at h
  split at h
  · rw [tells?, h]
    rfl
  · exact h.elim
  · rename_i hloop hdeliver
    cases t with
    | modules => rfl
    | move env what =>
      cases what with
      | loop index size => exact absurd rfl (hloop env index size)
      | deliver other => exact absurd rfl (hdeliver env other)
      | _ => rfl

end Running

/-- The answer was written, and behind it came notes alone. -/
def IsAnswered (socket : SocketId) (answer : Protocol.ServerMessage) (entries : List Entry) :
    Prop :=
  ∃ notes : List Event.Note, entries = .answered socket answer :: notes.map .notified

/-- Nothing was written yet, or the answer could not be written and nothing was written behind that,
or the answer was written and notes behind it. -/
def InOrder (socket : SocketId) (answer : Protocol.ServerMessage) (entries : List Entry) : Prop :=
  entries = [] ∨ entries = [.unanswered] ∨ IsAnswered socket answer entries

lemma IsAnswered.notified {socket : SocketId} {answer : Protocol.ServerMessage}
    {entries : List Entry} (h : IsAnswered socket answer entries) (note : Event.Note) :
    IsAnswered socket answer (entries ++ [.notified note]) := by
  obtain ⟨notes, rfl⟩ := h
  exact ⟨notes ++ [note], by simp⟩

lemma IsAnswered.ne_nil {socket : SocketId} {answer : Protocol.ServerMessage}
    {entries : List Entry} (h : IsAnswered socket answer entries) : entries ≠ [] := by
  obtain ⟨notes, rfl⟩ := h
  simp

/-- What an entry says of the sockets: the message stands behind what was written before. -/
def Entry.Lands (ref : DeliveryRef) (socket : SocketId) (s s' : Shared μ) : Entry → Prop
  | .answered id message => id = socket ∧ s'.sockets = (s.append socket message).sockets
  | .unanswered => s'.sockets = s.sockets
  | .notified note => ∃ d message, s.delivery? ref = some d ∧ d.socket = socket ∧
      note.message? d.sessionId = some message ∧ s'.sockets = (s.append socket message).sockets

/-! ## Requests that subscribe -/

/-- A loop is to answer a request that has made a delivery, and the answer is `ok`. -/
def Phase.Asks (request : Protocol.Request) : Phase → Prop
  | .dispatching r _ stage => r = request ∧ ∀ outcome, stage = .done outcome → outcome.reply = .ok
  | .replying r outcome => r = request ∧ outcome.reply = .ok
  | _ => False

section Loop

variable [Device.DeviceModule μ] {l : Loop} {request : Protocol.Request}

/-- Once a loop has come to its answer, no delivery waits for it any more. -/
lemma Loop.pending?_replying (env : Environment) (size : Nat) (s : Shared μ) {outcome : Dispatched}
    (hp : l.phase = .replying request outcome) :
    (l.step env size s).value.phase.pending? = none ∧
      ((s.socket l.socket).writeFault? ≠ none →
        (l.step env size s).value.phase.opening? = none) := by
  cases hw : (s.socket l.socket).writeFault? with
  | none =>
    rw [step_replying hp hw]
    refine ⟨?_, fun hc => absurd rfl hc⟩
    dsimp only [goTo, afterReply]
    split
    · rfl
    · split <;> rfl
  | some detail =>
    rw [step_replying_fault hp hw]
    have haloof := isAloof_afterFault (.io detail)
    exact ⟨Phase.pending?_of_isAloof haloof, fun _ => Phase.opening?_of_isAloof haloof⟩

/-- A stage that leads to an outcome with a delivery leads to `ok`. -/
lemma Dispatch.reply_step (env : Environment) (socket : SocketId) (session : Session.Ref)
    {stage : Stage} {outcome : Dispatched} {ref : DeliveryRef} (s : Shared μ)
    (hn : ∀ outcome, stage ≠ .done outcome)
    (ho : (step env Shared.closeConnection socket session request stage s).value = .done outcome)
    (hg : outcome.gate = some ref) : outcome.reply = .ok := by
  by_cases hs : ∃ window, stage = .subscribe window
  · obtain ⟨window, rfl⟩ := hs
    cases hf : env.threadFault with
    | none =>
      rw [step_subscribe _ _ _ _ _ _ hf] at ho
      cases ho
    | some detail =>
      obtain ⟨e, journal, he⟩ :=
        step_subscribe_fault Shared.closeConnection socket session request window s hf
      rw [he] at ho
      obtain rfl := Stage.done.inj ho
      cases hg
  by_cases ha : ∃ delivery, stage = .attach delivery
  · obtain ⟨delivery, rfl⟩ := ha
    cases hfree : (s.sessions.record session).subscription.all s.isFinished with
    | true =>
      obtain ⟨journal, he⟩ := step_attach env Shared.closeConnection socket session request hfree
      rw [he] at ho
      obtain rfl := Stage.done.inj ho
      rfl
    | false =>
      rw [step_attach_refused env Shared.closeConnection socket session request hfree] at ho
      cases ho
  · have hleads := yields_step env Shared.closeConnection socket session request
      (fun window he => hs ⟨window, he⟩) (fun delivery he => ha ⟨delivery, he⟩) s
    exact absurd (hleads.outcome outcome ho (by rw [hg]; rfl)) (hn outcome)

/-- Only a request to subscribe comes to where deliveries are made. -/
def Phase.Routed : Phase → Prop
  | .dispatching request _ stage => stage.isSubscribing → Route.ofRequest request = .subscribe
  | _ => True

lemma Phase.routed_of_request? {phase : Phase} (h : phase.request? = none) : phase.Routed := by
  cases phase <;> trivial

lemma Loop.routed_step (h : l.phase.Routed) (env : Environment) (size : Nat) (s : Shared μ) :
    (l.step env size s).value.phase.Routed := by
  cases hr : (l.step env size s).value.phase.request? with
  | none => exact Phase.routed_of_request? hr
  | some found =>
    obtain ⟨r, session⟩ := found
    rcases Loop.request?_step env size s hr with
      ⟨-, -, -, hnext⟩ | ⟨hp, hactive⟩ | ⟨stage, hp⟩
    · rw [hnext]
      trivial
    · rw [step_checkActive hp]
      dsimp only [goTo]
      rw [if_pos hactive]
      exact nofun
    · rw [hp] at h
      by_cases hd : ∃ outcome, stage = .done outcome
      · obtain ⟨outcome, rfl⟩ := hd
        rw [step_dispatching_done hp]
        trivial
      · obtain ⟨journal, he⟩ := step_dispatching env size s hp fun outcome hc => hd ⟨outcome, hc⟩
        rw [he]
        intro hs
        by_cases hw : stage.isSubscribing
        · exact h hw
        · have hwindow : ∀ window, stage ≠ .subscribe window := by
            rintro window rfl
            exact hw rfl
          have hattach : ∀ delivery, stage ≠ .attach delivery := by
            rintro delivery rfl
            exact hw rfl
          have hleads := Dispatch.yields_step env Shared.closeConnection l.socket session r
            hwindow hattach s
          exact (hleads.subscribing hs).resolve_left hw

lemma Phase.Asks.step (h : l.phase.Asks request) (env : Environment) (size : Nat) (s : Shared μ)
    {ref : DeliveryRef} (hr : (l.step env size s).value.phase.pending? = some ref) :
    (l.step env size s).value.phase.Asks request := by
  cases hp : l.phase with
  | dispatching r session stage =>
    rw [hp] at h
    obtain ⟨rfl, hreply⟩ := h
    by_cases hd : ∃ outcome, stage = .done outcome
    · obtain ⟨outcome, rfl⟩ := hd
      rw [Loop.step_dispatching_done hp]
      exact ⟨rfl, hreply outcome rfl⟩
    · have hn : ∀ outcome, stage ≠ .done outcome := fun outcome he => hd ⟨outcome, he⟩
      obtain ⟨journal, he⟩ := Loop.step_dispatching env size s hp hn
      rw [he] at hr ⊢
      refine ⟨rfl, fun outcome ho => ?_⟩
      apply Dispatch.reply_step env l.socket session s hn ho
      rw [← hr]
      exact (congrArg Dispatch.Stage.pending? ho).symm
  | replying r outcome =>
    rw [(Loop.pending?_replying env size s hp).1] at hr
    cases hr
  | _ =>
    rw [hp] at h
    exact h.elim

end Loop

/-! ## Deliveries behind their gates -/

/-- A delivery has not been let through, and writes nothing until it is. -/
structure Sealed (d : Event.Delivery) : Prop where
  gate : d.gate ≠ .opened
  stage : d.stage.isStreaming = false

lemma Sealed.stays {d d' : Event.Delivery} (h : Sealed d) (hs : d.Stays d') : Sealed d' := by
  refine ⟨?_, ?_⟩
  · rcases hs.gate with hg | hg
    · rw [hg]
      exact h.gate
    · rw [hg]
      exact Event.Gate.noConfusion
  · rw [hs.stage]
    exact h.stage

lemma Sealed.goes {d : Event.Delivery} {now : Time.Instant} {queue : List Event.Notification}
    {beat : Option Event.Beat} {next : Event.Stage} (h : Sealed d)
    (hg : d.Goes now queue d.stage beat next) : beat = none ∧ Sealed (d.goTo next) := by
  have hstill : ¬ (next.isStreaming ∨ beat ≠ none) := by
    intro hb
    rcases hg.streams hb with hs | hs
    · rw [h.stage] at hs
      cases hs
    · exact h.gate hs
  refine ⟨?_, h.gate, ?_⟩
  · by_contra hb
    exact hstill (.inr hb)
  · by_contra hn
    exact hstill (.inl (by simpa [Event.Delivery.goTo] using hn))

namespace Shared

variable {s s' : Shared μ} {ref other : DeliveryRef} {d : Event.Delivery}

lemma Stays.delivery_some (h : s.Stays s') (hd : s.delivery? ref = some d) :
    ∃ d', s'.delivery? ref = some d' ∧ d.Stays d' := by
  have hlt : ref.number < s'.deliveries.length := by
    rw [h.length]
    exact (List.getElem?_eq_some_iff.mp hd).1
  have hd' : s'.delivery? ref = some s'.deliveries[ref.number] := List.getElem?_eq_getElem hlt
  obtain ⟨d₀, hd₀, hs⟩ := h.delivery ref _ hd'
  obtain rfl := Option.some.inj (hd.symm.trans hd₀)
  exact ⟨_, hd', hs⟩

lemma delivery?_congr (h : s'.deliveries = s.deliveries) (ref : DeliveryRef) :
    s'.delivery? ref = s.delivery? ref := by
  rw [delivery?, h, delivery?]

lemma delivery?_modify_ne {f : Event.Delivery → Event.Delivery} (hne : other ≠ ref)
    (h : s'.deliveries = s.deliveries.modify other.number f) :
    s'.delivery? ref = s.delivery? ref := by
  have hn : other.number ≠ ref.number := by
    intro he
    exact hne (by cases other; cases ref; simpa using he)
  simp [delivery?, h, hn]

end Shared

/-- Under closing a session every delivery stays where it is. -/
lemma Closing.delivery_step {s : Shared μ} {ref : DeliveryRef} {d : Event.Delivery}
    (hd : s.delivery? ref = some d) (current : Closing) :
    ∃ d', (current.step s).state.delivery? ref = some d' ∧ d.Stays d' := by
  have h := current.goes_step s
  generalize (current.step s).state = s' at h ⊢
  generalize (current.step s).value = next at h
  cases h with
  | cancels delivery =>
    have hstays := Shared.stays_modify s delivery (f := fun d => { d with isCancelled := true })
      fun _ => ⟨rfl, rfl, .inl rfl⟩
    exact hstays.delivery_some hd
  | _ => exact ⟨d, hd, Std.Refl.refl d⟩

/-- Unless a loop lets a delivery through, it leaves the delivery where it is. -/
lemma Loop.Handles.delivery {l l' : Loop} {s s' : Shared μ} (h : l.Handles s l' s')
    {ref : DeliveryRef} {d : Event.Delivery} (hd : s.delivery? ref = some d)
    (ho : l.phase.opening? ≠ some ref) : ∃ d', s'.delivery? ref = some d' ∧ d.Stays d' := by
  have hr : d.Stays d := Std.Refl.refl d
  cases h with
  | subscribes _ _ _ _ _ _ _ _ _ deliveries =>
    refine ⟨d, ?_, hr⟩
    rw [Shared.delivery?, deliveries, List.getElem?_append_left]
    · exact hd
    · exact (List.getElem?_eq_some_iff.mp hd).1
  | attaches _ _ _ _ _ _ _ deliveries =>
    exact ⟨d, (Shared.delivery?_congr deliveries ref).trans hd, hr⟩
  | answers _ _ _ _ _ shared =>
    subst shared
    exact ⟨d, hd, hr⟩
  | fails _ _ _ _ _ stays => exact stays.delivery_some hd
  | opens delivery phase _ shared =>
    subst shared
    refine ⟨d, ?_, hr⟩
    have hne : delivery ≠ ref := by
      rintro rfl
      exact ho phase
    exact (Shared.delivery?_modify_ne hne rfl).trans hd
  | closes current _ _ _ shared =>
    subst shared
    exact Closing.delivery_step hd current
  | rests stays => exact stays.delivery_some hd

namespace Running

variable {s s' : Running μ} {ref : DeliveryRef} {index : Nat} {socket : SocketId}
  {request : Protocol.Request} {entries : List Entry}

/-- How far the answer to a request has come, and the delivery that the request has made. At most
one loop is to answer it, and the delivery is let through once that is done. -/
structure Gated (s : Running μ) (ref : DeliveryRef) (index : Nat) (socket : SocketId)
    (request : Protocol.Request) (entries : List Entry) : Prop where
  order : InOrder socket (Loop.replyMessage request .ok) entries
  delivery : ∃ d, s.shared.delivery? ref = some d ∧ d.socket = socket ∧
    (IsAnswered socket (Loop.replyMessage request .ok) entries ∨ Sealed d)
  pending : ∀ (i : Nat) (l : Loop), s.loops[i]? = some l → l.phase.pending? = some ref →
    i = index ∧ l.socket = socket ∧ l.phase.Asks request ∧ entries = []
  opening : ∀ (i : Nat) (l : Loop), s.loops[i]? = some l → l.phase.opening? = some ref →
    IsAnswered socket (Loop.replyMessage request .ok) entries

/-- What others do leaves the gate as it is. -/
lemma Gated.around (h : s.Gated ref index socket request entries)
    (hd : ∀ d, s.shared.delivery? ref = some d →
      ∃ d', s'.shared.delivery? ref = some d' ∧ d.Stays d')
    (hl : ∀ (i : Nat) (l : Loop), s'.loops[i]? = some l →
      s.loops[i]? = some l ∨ l.phase.pending? ≠ some ref ∧ l.phase.opening? ≠ some ref) :
    s'.Gated ref index socket request entries := by
  obtain ⟨d, hdelivery, hsocket, hstate⟩ := h.delivery
  obtain ⟨d', hd', hstays⟩ := hd d hdelivery
  refine ⟨h.order, ⟨d', hd', hstays.socket.trans hsocket, ?_⟩, ?_, ?_⟩
  · exact hstate.imp_right fun hsealed => hsealed.stays hstays
  · intro i l hi hp
    rcases hl i l hi with hi | ⟨hn, -⟩
    · exact h.pending i l hi hp
    · exact absurd hp hn
  · intro i l hi hp
    rcases hl i l hi with hi | ⟨-, hn⟩
    · exact h.opening i l hi hp
    · exact absurd hp hn

/-- A delivery that moves. -/
lemma Gated.moves (h : s.Gated ref index socket request entries) (env : Environment)
    (hl : s'.loops = s.loops) (hs : s'.shared = (s.shared.deliver env.now ref).state) :
    s'.Gated ref index socket request (entries ++ (s.shared.tells? env.now ref).toList) := by
  obtain ⟨d, hd, hdsocket, hstate⟩ := h.delivery
  obtain ⟨next, hm⟩ := Shared.moved_deliver env.now hd
  rw [← hs] at hm
  have hkeep : s.shared.tells? env.now ref = none →
      IsAnswered socket (Loop.replyMessage request .ok) entries ∨ Sealed (d.goTo next) →
      s'.Gated ref index socket request (entries ++ (s.shared.tells? env.now ref).toList) := by
    intro hentry hnext
    rw [hentry, Option.toList_none, List.append_nil]
    refine ⟨h.order, ⟨d.goTo next, hm.delivery, hdsocket, hnext⟩, ?_, ?_⟩
    · rw [hl]
      exact h.pending
    · rw [hl]
      exact h.opening
  rcases hstate with hanswered | hsealed
  · cases hentry : s.shared.tells? env.now ref with
    | none =>
      rw [← hentry]
      exact hkeep hentry (.inl hanswered)
    | some entry =>
      obtain ⟨note, rfl⟩ : ∃ note, entry = .notified note := by
        unfold Shared.tells? at hentry
        split at hentry
        · exact ⟨_, (Option.some.inj hentry).symm⟩
        · cases hentry
      have hmore := hanswered.notified note
      refine ⟨.inr (.inr hmore), ⟨d.goTo next, hm.delivery, hdsocket, .inl hmore⟩, ?_, ?_⟩
      · rw [hl]
        intro i l hi hp
        exact absurd (h.pending i l hi hp).2.2.2 hanswered.ne_nil
      · exact fun _ _ _ _ => hmore
  · obtain ⟨hbeat, hnext⟩ := hsealed.goes hm.goes
    apply hkeep
    · rw [Shared.tells?, hbeat]
    · exact .inr hnext

lemma getElem?_stepped {l l' : Loop} (hl : s'.loops = s.loops.set index l') {i : Nat}
    (hi : s'.loops[i]? = some l) : i = index ∧ l = l' ∨ i ≠ index ∧ s.loops[i]? = some l := by
  rw [hl] at hi
  exact Valid.getElem?_set_cases hi

variable [Device.DeviceModule μ] {l : Loop}

/-- A loop that writes the answer. -/
lemma Gated.replies (h : s.Gated ref index socket request entries) {i : Nat}
    (hi : s.loops[i]? = some l) (env : Environment) (size : Nat)
    (hl : s'.loops = s.loops.set i (l.step env size s.shared).value)
    (hs : s'.shared = (l.step env size s.shared).state) {r : Protocol.Request}
    {outcome : Dispatched} (hp : l.phase = .replying r outcome) (hg : outcome.gate = some ref) :
    s'.Gated ref index socket request (entries ++ (l.tells? ref s.shared).toList) := by
  have hpending : l.phase.pending? = some ref := by
    rw [hp]
    exact hg
  obtain ⟨rfl, hsocket, hasks, rfl⟩ := h.pending i l hi hpending
  rw [hp] at hasks
  obtain ⟨rfl, hreply⟩ := hasks
  obtain ⟨hnext, hfault⟩ := Loop.pending?_replying env size s.shared hp
  obtain ⟨d, hd, hdsocket, hstate⟩ := h.delivery
  -- The answer is the first entry, so that the delivery has not been let through.
  have hsealed : Sealed d := hstate.resolve_left fun hc => hc.ne_nil rfl
  obtain ⟨d', hd', hstays⟩ := (l.handles_step env size s.shared).delivery hd (by rw [hp]; nofun)
  rw [← hs] at hd'
  have hnone : ∀ (j : Nat) (m : Loop), s'.loops[j]? = some m → m.phase.pending? ≠ some ref := by
    intro j m hj hm
    rcases getElem?_stepped hl hj with ⟨-, rfl⟩ | ⟨hne, hj⟩
    · rw [hnext] at hm
      cases hm
    · exact hne (h.pending j m hj hm).1
  cases hw : (s.shared.socket l.socket).writeFault? with
  | none =>
    have hentry : l.tells? ref s.shared =
        some (.answered socket (Loop.replyMessage r .ok)) := by
      simp [Loop.tells?, hp, hg, hreply, ← hsocket, hw]
    have hanswered : IsAnswered socket (Loop.replyMessage r .ok)
        ([] ++ (l.tells? ref s.shared).toList) := by
      rw [hentry]
      exact ⟨[], rfl⟩
    exact ⟨.inr (.inr hanswered), ⟨d', hd', hstays.socket.trans hdsocket, .inl hanswered⟩,
      fun j m hj hm => absurd hm (hnone j m hj), fun _ _ _ _ => hanswered⟩
  | some detail =>
    have hentry : l.tells? ref s.shared = some .unanswered := by
      simp [Loop.tells?, hp, hg, hw]
    rw [hentry]
    refine ⟨.inr (.inl rfl), ⟨d', hd', hstays.socket.trans hdsocket, .inr (hsealed.stays hstays)⟩,
      fun j m hj hm => absurd hm (hnone j m hj), ?_⟩
    intro j m hj hm
    rcases getElem?_stepped hl hj with ⟨-, rfl⟩ | ⟨-, hj⟩
    · rw [hfault (by rw [hw]; simp)] at hm
      cases hm
    · exact absurd rfl (h.opening j m hj hm).ne_nil

/-- A loop that does anything else. -/
lemma Gated.steps (h : s.Gated ref index socket request entries) {i : Nat}
    (hi : s.loops[i]? = some l) (env : Environment) (size : Nat)
    (hl : s'.loops = s.loops.set i (l.step env size s.shared).value)
    (hs : s'.shared = (l.step env size s.shared).state)
    (hn : ∀ r outcome, l.phase = .replying r outcome → outcome.gate ≠ some ref) :
    s'.Gated ref index socket request entries := by
  have hstep := l.handles_step env size s.shared
  obtain ⟨d, hd, hdsocket, hstate⟩ := h.delivery
  have hlt : ref.number < s.shared.deliveries.length := (List.getElem?_eq_some_iff.mp hd).1
  refine ⟨h.order, ?_, ?_, ?_⟩
  · by_cases ho : l.phase.opening? = some ref
    · have hanswered := h.opening i l hi ho
      cases hp : l.phase with
      | openGate delivery closes =>
        rw [hp] at ho
        obtain rfl := Option.some.inj ho
        rw [hs, Loop.step_openGate hp]
        exact ⟨_, Shared.delivery?_modify hd _, hdsocket, .inl hanswered⟩
      | _ =>
        rw [hp] at ho
        cases ho
    · obtain ⟨d', hd', hstays⟩ := hstep.delivery hd ho
      rw [← hs] at hd'
      exact ⟨d', hd', hstays.socket.trans hdsocket,
        hstate.imp_right fun hsealed => hsealed.stays hstays⟩
  · intro j m hj hm
    rcases getElem?_stepped hl hj with ⟨rfl, rfl⟩ | ⟨-, hj⟩
    · rcases hstep.pending hm with hp | ⟨hnumber, -⟩
      · obtain ⟨hindex, hsocket, hasks, he⟩ := h.pending j l hi hp
        exact ⟨hindex, (l.peer_step env size s.shared).1.trans hsocket,
          hasks.step env size _ hm, he⟩
      · -- A delivery that is made now is not the one at hand, which has been made.
        omega
    · exact h.pending j m hj hm
  · intro j m hj hm
    rcases getElem?_stepped hl hj with ⟨rfl, rfl⟩ | ⟨-, hj⟩
    · obtain ⟨r, outcome, hp, hg, -⟩ := hstep.opening hm
      exact absurd hg (hn r outcome hp)
    · exact h.opening j m hj hm

lemma Gated.turn (h : s.Gated ref index socket request entries) (t : Turn μ) :
    (Turn.act s t).Gated ref index socket request (entries ++ (s.tells? ref t).toList) := by
  have hmove := t.handles s
  generalize Turn.act s t = s' at hmove ⊢
  cases hmove with
  | steps env i size l turn found loops shared =>
    subst turn
    have hentry : s.tells? ref (.move env (.loop i size)) = l.tells? ref s.shared := by
      rw [tells?, found]
      rfl
    rw [hentry]
    by_cases hr : ∃ r outcome, l.phase = .replying r outcome ∧ outcome.gate = some ref
    · obtain ⟨r, outcome, hp, hg⟩ := hr
      exact h.replies found env size loops shared hp hg
    · have hn : ∀ r outcome, l.phase = .replying r outcome → outcome.gate ≠ some ref :=
        fun r outcome hp hg => hr ⟨r, outcome, hp, hg⟩
      have hnone : l.tells? ref s.shared = none := by
        unfold Loop.tells?
        split
        · rename_i r outcome hp
          rw [if_neg (hn r outcome hp)]
        · rfl
      rw [hnone, Option.toList_none, List.append_nil]
      exact h.steps found env size loops shared hn
  | delivers env other turn loops shared =>
    subst turn
    by_cases he : other = ref
    · subst he
      rw [tells?, if_pos rfl]
      exact h.moves env loops shared
    · rw [tells?, if_neg he, Option.toList_none, List.append_nil]
      apply h.around
      · intro d hd
        obtain ⟨f, hf⟩ := (Shared.deliver_alone env.now other s.shared).2
        rw [shared]
        exact ⟨d, (Shared.delivery?_modify_ne he hf).trans hd, Std.Refl.refl d⟩
      · rw [loops]
        exact fun _ _ hi => .inl hi
  | closes current aside _ _ _ loops shared =>
    rw [tells?_of_isAside ref aside, Option.toList_none, List.append_nil]
    apply h.around
    · rw [shared]
      exact fun d hd => Closing.delivery_step hd current
    · rw [loops]
      exact fun _ _ hi => .inl hi
  | rests aside stays loops =>
    rw [tells?_of_isAside ref aside, Option.toList_none, List.append_nil]
    apply h.around fun d hd => stays.delivery_some hd
    intro i l hi
    rcases loops with hl | ⟨started, hl⟩
    · rw [hl] at hi
      exact .inl hi
    · rw [hl] at hi
      rcases Valid.getElem?_concat hi with hi | rfl
      · exact .inl hi
      · exact .inr ⟨nofun, nofun⟩

lemma Gated.after (h : s.Gated ref index socket request entries) (turns : List (Turn μ)) :
    (s.after turns).Gated ref index socket request (entries ++ s.entries ref turns) := by
  induction turns generalizing s entries with
  | nil =>
    rw [Running.entries, List.append_nil]
    exact h
  | cons t rest ih =>
    rw [Running.entries, ← List.append_assoc]
    exact ih (h.turn t)

lemma routed_after (h : s.IsNew) (turns : List (Turn μ)) {i : Nat}
    (hi : (s.after turns).loops[i]? = some l) : l.phase.Routed := by
  induction turns using List.reverseRecOn generalizing i l with
  | nil =>
    rw [after_nil, h.loops] at hi
    cases hi
  | append_singleton turns t ih =>
    rw [after_append] at hi
    rcases (t.handles (s.after turns)).loop hi with
      hi | ⟨socket, rfl⟩ | ⟨env, size, m, found, rfl, -⟩
    · exact ih hi
    · trivial
    · exact Loop.routed_step (ih found) env size _

/-- A loop that makes a delivery. -/
lemma Ranged.gated (h : s.Ranged) (hi : s.loops[index]? = some l) {session : Session.Ref}
    {window : Event.Window} (hp : l.phase = .dispatching request session (.subscribe window))
    {env : Environment} (hf : env.threadFault = none) (size : Nat) :
    (Turn.act s (.move env (.loop index size))).Gated ⟨s.shared.deliveries.length⟩ index l.socket
      request [] := by
  have hmove := (Turn.move env (.loop index size)).handles s
  generalize Turn.act s (.move env (.loop index size)) = s' at hmove ⊢
  cases hmove with
  | delivers _ _ turn => cases turn
  | closes _ aside | rests aside =>
    have hnone : s.loops[index]? = none := aside
    rw [hi] at hnone
    cases hnone
  | steps env' index' size' m turn found loops shared =>
    obtain ⟨rfl, hmove⟩ := Turn.move.inj turn
    obtain ⟨rfl, rfl⟩ := Move.loop.inj hmove
    obtain rfl := Option.some.inj (hi.symm.trans found)
    obtain ⟨journal, he⟩ :=
      Loop.step_dispatching env size s.shared hp fun _ => Dispatch.Stage.noConfusion
    rw [Dispatch.step_subscribe _ _ _ _ _ _ hf] at he
    rw [he] at loops shared
    have hunborn : ∀ (i : Nat) (m : Loop), s.loops[i]? = some m →
        m.phase.pending? ≠ some ⟨s.shared.deliveries.length⟩ ∧
          m.phase.opening? ≠ some ⟨s.shared.deliveries.length⟩ := by
      intro i m hm
      constructor <;> intro hc
      · exact Nat.lt_irrefl _ (h i m _ hm (.inl hc))
      · exact Nat.lt_irrefl _ (h i m _ hm (.inr hc))
    have hmade : s'.shared.delivery? ⟨s.shared.deliveries.length⟩ = some
        (.start (s.shared.sessions.record session).id l.socket window s.shared.modules.bus.nextId
          (s.shared.modules.bus.replay window.start window.stop)) := by
      rw [shared]
      exact List.getElem?_concat_length
    refine ⟨.inl rfl, ⟨_, hmade, rfl, .inr ⟨Event.Gate.noConfusion, rfl⟩⟩, ?_, ?_⟩
    · intro i m hm hw
      rcases getElem?_stepped loops hm with ⟨rfl, rfl⟩ | ⟨-, hm⟩
      · exact ⟨rfl, rfl, ⟨rfl, nofun⟩, rfl⟩
      · exact absurd hw (hunborn i m hm).1
    · intro i m hm hw
      rcases getElem?_stepped loops hm with ⟨rfl, rfl⟩ | ⟨-, hm⟩
      · cases hw
      · exact absurd hw (hunborn i m hm).2

/-- Entries say what the turns do, and a delivery that makes none leaves the sockets alone. -/
lemma Gated.lands (h : s.Gated ref index socket request entries) (t : Turn μ) :
    (∀ entry, s.tells? ref t = some entry →
      entry.Lands ref socket s.shared (Turn.act s t).shared) ∧
    (∀ env, t = .move env (.deliver ref) → s.tells? ref t = none →
      (Turn.act s t).shared.sockets = s.shared.sockets) := by
  have hmove := t.handles s
  generalize Turn.act s t = s' at hmove ⊢
  cases hmove with
  | closes _ aside | rests aside =>
    rw [tells?_of_isAside ref aside]
    refine ⟨nofun, ?_⟩
    rintro env rfl
    exact aside.elim
  | steps env i size l turn found loops shared =>
    subst turn
    refine ⟨?_, nofun⟩
    intro entry he
    rw [tells?, found, Option.bind_some, Loop.tells?] at he
    split at he
    · rename_i r outcome hp
      split at he
      · rename_i hg
        have hpending : l.phase.pending? = some ref := by
          rw [hp]
          exact hg
        have hsocket := (h.pending i l found hpending).2.1
        split at he
        · rename_i hw
          obtain rfl := Option.some.inj he
          rw [shared, Loop.step_replying hp hw, ← hsocket]
          exact ⟨rfl, rfl⟩
        · rename_i detail hw
          obtain rfl := Option.some.inj he
          rw [shared, Loop.step_replying_fault hp hw]
          dsimp only [Entry.Lands]
          split <;> rfl
      · cases he
    · cases he
  | delivers env other turn loops shared =>
    subst turn
    obtain ⟨d, hd, hdsocket, -⟩ := h.delivery
    by_cases ho : other = ref
    · subst ho
      obtain ⟨next, hm⟩ := Shared.moved_deliver env.now hd
      rw [← shared] at hm
      rw [tells?, if_pos rfl, Shared.tells?]
      refine ⟨?_, ?_⟩
      · intro entry he
        split at he
        · rename_i note hb
          obtain rfl := Option.some.inj he
          obtain ⟨message, hmessage, hsockets⟩ := hm.sockets note hb
          exact ⟨d, message, hd, hdsocket, hmessage, hdsocket ▸ hsockets⟩
        · cases he
      · intro env' _ he
        apply hm.silent
        rintro note hb
        rw [hb] at he
        cases he
    · rw [tells?, if_neg ho]
      refine ⟨nofun, ?_⟩
      intro env' ht
      obtain ⟨-, hd⟩ := Turn.move.inj ht
      exact absurd (Move.deliver.inj hd) ho

/-! ## The whole -/

/-- What a run writes of a delivery and of the answer to its request, in the order in which it is
written. A delivery that tells nothing leaves the sockets alone. -/
structure Conducts (s : Running μ) (ref : DeliveryRef) (socket : SocketId)
    (answer : Protocol.ServerMessage) (turns : List (Turn μ)) : Prop where
  order : InOrder socket answer (s.entries ref turns)
  lands : ∀ earlier t later, turns = earlier ++ t :: later →
    ∀ entry, (s.after earlier).tells? ref t = some entry →
      entry.Lands ref socket (s.after earlier).shared (s.after (earlier ++ [t])).shared
  silent : ∀ earlier env later, turns = earlier ++ Turn.move env (.deliver ref) :: later →
    (s.after earlier).tells? ref (.move env (.deliver ref)) = none →
      (s.after (earlier ++ [.move env (.deliver ref)])).shared.sockets =
        (s.after earlier).shared.sockets

lemma Gated.conducts (h : s.Gated ref index socket request []) (turns : List (Turn μ)) :
    s.Conducts ref socket (Loop.replyMessage request .ok) turns := by
  have hall : ∀ earlier, (s.after earlier).Gated ref index socket request
      (s.entries ref earlier) := fun earlier => h.after earlier
  refine ⟨(hall turns).order, ?_, ?_⟩
  · intro earlier t later _ entry he
    rw [after_append]
    exact ((hall earlier).lands t).1 entry he
  · intro earlier env later _ he
    rw [after_append]
    exact ((hall earlier).lands _).2 env rfl he

end Running

/-- Whatever happens to a delivery that a request has made, it writes what was replayed, the event
that ends the replay, live events in order, and the event that ends it, and stops at the first write
that fails. Over its connection all this comes behind the answer `ok`, or never. -/
theorem notifies_behind_answer [Device.DeviceModule μ] (s : Running μ) (hs : s.IsNew)
    (turns : List (Turn μ)) (before made : Running μ) (hbefore : s.after turns = before)
    (env : Environment) (index size : Nat)
    (hmade : Turn.act before (.move env (.loop index size)) = made)
    (l : Loop) (hfound : before.loops[index]? = some l)
    (request : Protocol.Request) (session : Session.Ref) (window : Event.Window)
    (hphase : l.phase = .dispatching request session (.subscribe window))
    (hthread : env.threadFault = none)
    (hnumber : before.shared.modules.bus.nextId ∉ before.shared.modules.bus.numbers) :
    Route.ofRequest request = .subscribe ∧
      ∃ ref d, ref.number = before.shared.deliveries.length ∧
        made.shared.delivery? ref = some d ∧ d.socket = l.socket ∧ d.window = window ∧
        d.replay = before.shared.modules.bus.replay window.start window.stop ∧
        (∀ occasions, Shared.Course ref d made.shared occasions) ∧
        ∀ rest, made.Conducts ref l.socket (Loop.replyMessage request .ok) rest := by
  have hranged : before.Ranged := by
    rw [← hbefore]
    exact hs.ranged.after turns
  have hvalid : before.Valid := by
    rw [← hbefore]
    exact hs.valid.after turns
  refine ⟨?_, ⟨before.shared.deliveries.length⟩, ?_⟩
  · rw [← hbefore] at hfound
    have hrouted := Running.routed_after hs turns hfound
    rw [hphase] at hrouted
    exact hrouted rfl
  · obtain ⟨journal, hstep⟩ := Loop.step_dispatching env size before.shared hphase
      fun _ => Dispatch.Stage.noConfusion
    have hshared : made.shared = (Dispatch.step env Shared.closeConnection l.socket session request
        (.subscribe window) before.shared).state := by
      have hloop := (Action.gist_eq_iff.mp (Running.moveLoop_eq env index size hfound)).2.1
      rw [← hmade]
      exact (congrArg Running.shared hloop).trans (by rw [hstep])
    have hvalue : (Dispatch.step env Shared.closeConnection l.socket session request
        (.subscribe window) before.shared).value = .attach ⟨before.shared.deliveries.length⟩ := by
      rw [Dispatch.step_subscribe _ _ _ _ _ _ hthread]
    have hsocket : l.socket.number < before.shared.sockets.length := by
      apply hvalid.inRange
      exact List.mem_append_left _ (List.mem_map.mpr ⟨l, List.mem_of_getElem? hfound, rfl⟩)
    obtain ⟨d, hd, hdsocket, hwindow, hreplay⟩ :=
      Shared.begins_subscribe hvalue hshared.symm hnumber hsocket
    refine ⟨d, rfl, hd.found, hdsocket, hwindow, hreplay, hd.course, ?_⟩
    rw [← hmade]
    exact (hranged.gated hfound hphase hthread size).conducts

/-- A peer subscribes, and its loop comes to where the delivery is made. -/
def subscribingTurns : List (Turn Device.ScriptedModule) :=
  [.connect, .send 0 (.hello ⟨"a", "operator", ⟨[Capability.notification]⟩⟩),
    .send 0 (.rpc ⟨"a", some "1", "create-subscription", none, .null⟩)] ++ Turn.steps 0 19

/-- The request is answered, and an event is published and delivered. -/
def deliveringTurns : List (Turn Device.ScriptedModule) :=
  Turn.steps 0 4 ++ [.move .calm (.publish (.at 3 "linkDown" .null))] ++
    List.replicate 8 (.move .calm (.deliver ⟨0⟩))

/-- The window for which a loop is to make a delivery. -/
def Phase.window? : Phase → Option Event.Window
  | .dispatching _ _ (.subscribe window) => some window
  | _ => none

def Entry.isNotified : Entry → Bool
  | .notified _ => true
  | _ => false

lemma Phase.of_window? {phase : Phase} (h : phase.window?.isSome) :
    ∃ request session window, phase = .dispatching request session (.subscribe window) := by
  cases phase with
  | dispatching request session stage =>
    cases stage with
    | subscribe window => exact ⟨request, session, window, rfl⟩
    | _ => cases h
  | _ => cases h

theorem notifies_behind_answer_linkDown :
    let start : Running Device.ScriptedModule := .ofHost default
    let before := start.after subscribingTurns
    let made := Turn.act before (.move .calm (.loop 0 4096))
    start.IsNew ∧ Environment.calm.threadFault = none ∧
      before.shared.modules.bus.nextId ∉ before.shared.modules.bus.numbers ∧
      (made.entries ⟨0⟩ deliveringTurns).map (·.isNotified) = [false, true] ∧
      ∃ l request session window, before.loops[0]? = some l ∧
        l.phase = .dispatching request session (.subscribe window) ∧
        Route.ofRequest request = .subscribe ∧
        ∃ ref d, ref.number = before.shared.deliveries.length ∧
          made.shared.delivery? ref = some d ∧ d.socket = l.socket ∧ d.window = window ∧
          d.replay = before.shared.modules.bus.replay window.start window.stop ∧
          (∀ occasions, Shared.Course ref d made.shared occasions) ∧
          ∀ rest, made.Conducts ref l.socket (Loop.replyMessage request .ok) rest := by
  intro start before made
  have hnew : start.IsNew := Running.isNew_ofHost default
  have hnumber : before.shared.modules.bus.nextId ∉ before.shared.modules.bus.numbers := by
    decide +kernel
  have hat : (before.loops[0]?.bind fun l => l.phase.window?).isSome := by decide +kernel
  obtain ⟨l, hfound, hwindow⟩ : ∃ l, before.loops[0]? = some l ∧ l.phase.window?.isSome := by
    cases hl : before.loops[0]? with
    | none =>
      rw [hl] at hat
      cases hat
    | some l =>
      rw [hl] at hat
      exact ⟨l, rfl, hat⟩
  obtain ⟨request, session, window, hphase⟩ := Phase.of_window? hwindow
  exact ⟨hnew, rfl, hnumber, by decide +kernel, l, request, session, window, hfound, hphase,
    notifies_behind_answer start hnew subscribingTurns before made rfl .calm 0 4096 rfl l hfound
      request session window hphase rfl hnumber⟩

end ManagementServer.Server
