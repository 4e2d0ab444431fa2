import ManagementServer.Proofs.BusHistory
import ManagementServer.Proofs.SharedState

/-!
# The moves of a delivery

`Delivery.Goes` lists what a move can do, and `Shared.moved_deliver` says that it does one of these.
What a delivery has taken from its channel and written is known from where it stands: every move
keeps `Delivery.Accounts`.
-/

namespace ManagementServer.Event

/-- What a delivery writes. -/
inductive Note where
  | replayed (event : Notification)
  | replayComplete (now : Time.Instant)
  | live (event : Notification)
  | complete (now : Time.Instant)

namespace Note

def event : Note → Notification
  | .replayed n => n
  | .replayComplete now => .at now Event.replayComplete .null
  | .live n => n
  | .complete now => .at now notificationComplete .null

def isLive : Note → Bool
  | .live _ => true
  | _ => false

/-- The message that carries a note, if its time can be written. -/
def message? (note : Note) (sessionId : String) : Option Protocol.ServerMessage :=
  Protocol.ServerMessage.ofNotification? sessionId note.event

end Note

/-- What others can tell of a move. -/
inductive Beat where
  | took (event : Notification)
  | wrote (note : Note)
  | failed (note : Note)

namespace Beat

def taken? : Beat → Option Notification
  | .took n => some n
  | _ => none

def written? : Beat → Option Note
  | .wrote note => some note
  | _ => none

/-- Whether a delivery does nothing any more behind this. -/
def isLast : Beat → Bool
  | .failed _ => true
  | .wrote (.complete _) => true
  | _ => false

end Beat

/-- The events that were taken from the channel. -/
def taken (beats : List Beat) : List Notification := beats.filterMap (·.taken?)

/-- The notes that were written. -/
def written (beats : List Beat) : List Note := beats.filterMap (·.written?)

/-- Whether nothing is taken or written from a stage, and the delivery stays on the bus. -/
def Stage.isQuiet : Stage → Bool
  | .awaiting | .atGate | .replaying [] | .checking | .timing => true
  | _ => false

/-- Whether a delivery has been let through its gate and has not come to its end. -/
def Stage.isStreaming : Stage → Bool
  | .awaiting | .atGate | .leaving | .ended => false
  | _ => true

/-- How many live events a delivery that was cancelled may still write. -/
def Stage.budget : Stage → Nat
  | .timing | .receiving | .sending _ => 1
  | _ => 0

lemma taken_append (beats more : List Beat) : taken (beats ++ more) = taken beats ++ taken more :=
  List.filterMap_append

lemma written_append (beats more : List Beat) :
    written (beats ++ more) = written beats ++ written more :=
  List.filterMap_append

namespace Delivery

/-- What a delivery would write next. -/
def note? (d : Delivery) (now : Time.Instant) : Option Note :=
  match d.stage with
  | .replaying (n :: _) => some (.replayed n)
  | .announcing => some (.replayComplete now)
  | .sending n => some (.live n)
  | .completing => some (.complete now)
  | _ => none

def beat? (d : Delivery) (now : Time.Instant) (waiting : Option Notification)
    (isWritable : Bool) : Option Beat :=
  match d.note? now with
  | some note =>
    some (if isWritable && (note.message? d.sessionId).isSome then .wrote note else .failed note)
  | none =>
    match d.stage with
    | .receiving => waiting.map .took
    | _ => none

lemma beat?_of_quiet {d : Delivery} {now : Time.Instant} {waiting : Option Notification}
    {isWritable : Bool} {stage : Stage} (hs : d.stage = stage) (hq : stage.isQuiet) :
    d.beat? now waiting isWritable = none := by
  unfold Stage.isQuiet at hq
  split at hq <;> simp_all [beat?, note?]

/-- The bus behind a move of which others can tell this. -/
def onBus (d : Delivery) (beat : Option Beat) (b : Bus) : Bus :=
  match d.stage, beat with
  | .leaving, _ => b.unsubscribe d.subscriber
  | _, some (.took _) => b.advance d.subscriber
  | _, _ => b

lemma onBus_of_quiet {d : Delivery} {beat : Option Beat} (hl : d.stage ≠ .leaving)
    (hb : ∀ n, beat ≠ some (.took n)) (b : Bus) : d.onBus beat b = b := by
  unfold onBus
  split
  · exact absurd ‹_› hl
  · exact absurd rfl (hb _)
  · rfl

/-- What comes before the live events. -/
def opening (d : Delivery) (now : Time.Instant) : List Note :=
  d.replay.map .replayed ++ if d.window.start.isSome then [.replayComplete now] else []

/-- What is made of the events of the channel. -/
def live (d : Delivery) (events : List Notification) : List Note :=
  (events.filter d.window.admits).map .live

/-- What a move can do: the stage, what others can tell, and the next stage. -/
inductive Goes (d : Delivery) (now : Time.Instant) (queue : List Notification) :
    Stage → Option Beat → Stage → Prop where
  | abandons (hc : d.isCancelled = true) : Goes d now queue .awaiting none .leaving
  | looks (hc : d.isCancelled = false) : Goes d now queue .awaiting none .atGate
  | waits (hg : d.gate = .waiting) : Goes d now queue .atGate none .awaiting
  | enters (hg : d.gate = .opened) : Goes d now queue .atGate none (.replaying d.replay)
  | turnsAway (hg : d.gate = .dropped) : Goes d now queue .atGate none .leaving
  | replays (n : Notification) (rest : List Notification) :
      Goes d now queue (.replaying (n :: rest)) (some (.wrote (.replayed n))) (.replaying rest)
  | announces (hs : d.window.start.isSome) : Goes d now queue (.replaying []) none .announcing
  | skips (hs : d.window.start.isSome = false) : Goes d now queue (.replaying []) none .checking
  | announced :
      Goes d now queue .announcing (some (.wrote (.replayComplete now))) .checking
  | stops (hc : d.isCancelled = true) : Goes d now queue .checking none .leaving
  | goesOn (hc : d.isCancelled = false) : Goes d now queue .checking none .timing
  | expires (ho : d.window.isOver now = true) : Goes d now queue .timing none .completing
  | listens (ho : d.window.isOver now = false) : Goes d now queue .timing none .receiving
  | findsNothing (hq : queue = []) : Goes d now queue .receiving none .checking
  | takes (n : Notification) (rest : List Notification) (hq : queue = n :: rest)
      (ha : d.window.admits n = true) : Goes d now queue .receiving (some (.took n)) (.sending n)
  | discards (n : Notification) (rest : List Notification) (hq : queue = n :: rest)
      (ha : d.window.admits n = false) : Goes d now queue .receiving (some (.took n)) .checking
  | sends (n : Notification) : Goes d now queue (.sending n) (some (.wrote (.live n))) .checking
  | completes : Goes d now queue .completing (some (.wrote (.complete now))) .leaving
  | fails (stage : Stage) (note : Note) (hs : d.stage = stage) (hn : d.note? now = some note) :
      Goes d now queue stage (some (.failed note)) .leaving
  | ends : Goes d now queue .leaving none .ended
  | rests : Goes d now queue .ended none .ended

/-- The delivery with its flags and its stage as given. -/
def standing (d : Delivery) (isCancelled : Bool) (gate : Gate) (stage : Stage) : Delivery :=
  { d with isCancelled, gate, stage }

section Goes

variable {d : Delivery} {now : Time.Instant} {queue : List Notification} {stage next : Stage}

lemma Goes.move_quiet (h : d.Goes now queue stage none next) (hs : d.stage = stage)
    (hq : stage.isQuiet) (waiting : Option Notification) : d.move now waiting = .go next := by
  cases h <;> simp_all [move, Stage.isQuiet]

lemma Goes.move_note {note : Note} (h : d.Goes now queue stage (some (.wrote note)) next)
    (hs : d.stage = stage) (waiting : Option Notification) :
    d.note? now = some note ∧ d.move now waiting = d.send note.event next := by
  cases h <;> simp [note?, move, hs, Note.event]

lemma isStreaming_of_note? {note : Note} (h : d.note? now = some note) : d.stage.isStreaming := by
  unfold note? at h
  split at h
  case h_5 => cases h
  all_goals simp [Stage.isStreaming, *]

/-- Before its gate is opened nobody can tell anything of a delivery. -/
lemma Goes.streams {beat : Option Beat} (h : d.Goes now queue stage beat next)
    (hb : next.isStreaming ∨ beat ≠ none) : stage.isStreaming ∨ d.gate = .opened := by
  cases h with
  | fails stage note hd hn => exact .inl (hd ▸ isStreaming_of_note? hn)
  | _ => simp_all [Stage.isStreaming]

/-- A delivery that has left the bus is at its end. -/
lemma Goes.ne_leaving {beat : Option Beat} (h : d.Goes now queue stage beat next)
    (hn : next ≠ .ended) : stage ≠ .leaving ∧ stage ≠ .ended := by
  cases h with
  | fails stage note hd hnote =>
    have hstreams := isStreaming_of_note? hnote
    rw [hd] at hstreams
    constructor <;> rintro rfl <;> cases hstreams
  | ends | rests => exact absurd rfl hn
  | _ => exact ⟨by simp, by simp⟩

lemma Goes.silent {beat : Option Beat} (h : d.Goes now queue stage beat .ended) : beat = none := by
  cases h <;> rfl

lemma Goes.leaves_of_isLast {beat : Beat} (h : d.Goes now queue stage (some beat) next)
    (hl : beat.isLast) : next = .leaving := by
  cases h <;> first | rfl | cases hl

lemma Goes.budget {beat : Option Beat} (h : d.Goes now queue stage beat next)
    (hc : d.isCancelled) :
    (written beat.toList).countP (·.isLive) + next.budget ≤ stage.budget := by
  cases h <;> simp_all [written, Beat.written?, Note.isLive, Stage.budget]

/-- What waits in the channel is what is taken and what waits behind it. -/
lemma Goes.channel {b : Bus} {beat : Option Beat}
    (h : d.Goes now (b.pending d.subscriber) stage beat next) (hs : d.stage = stage)
    (hn : next ≠ .ended) : (d.onBus beat b).numbers = b.numbers ∧
      taken beat.toList ++ (d.onBus beat b).pending d.subscriber = b.pending d.subscriber := by
  have hl : d.stage ≠ .leaving := by
    rw [hs]
    exact (h.ne_leaving hn).1
  rcases beat with _ | ⟨n⟩ | ⟨note⟩ | ⟨note⟩
  case some.took =>
    have hqueue : b.pending d.subscriber = n :: (b.pending d.subscriber).drop 1 := by
      cases h with
      | takes n rest hq ha | discards n rest hq ha => rw [hq]; rfl
    have hbus : d.onBus (some (.took n)) b = b.advance d.subscriber := by
      cases h <;> simp [onBus, hs]
    rw [hbus, Bus.numbers_advance, Bus.pending_advance_self]
    exact ⟨rfl, hqueue.symm⟩
  all_goals
    rw [onBus_of_quiet hl (by simp)]
    exact ⟨rfl, rfl⟩

end Goes

/-! ## What was taken and written at a stage -/

/-- What a delivery at its end has written: some of what it was to write, or all of it and the event
that ends it. `past` says of the events taken that the span was over behind them. -/
def Closes (d : Delivery) (past : List Notification → Prop) (took : List Notification)
    (wrote : List Note) : Prop :=
  (∃ now, wrote <+: d.opening now ++ d.live took) ∨
    past took ∧ ∃ now last, wrote = d.opening now ++ d.live took ++ [.complete last]

/-- What a delivery has taken and written where it stands. -/
def Accounts (d : Delivery) (past : List Notification → Prop) (took : List Notification)
    (wrote : List Note) : Stage → Prop
  | .awaiting | .atGate => took = [] ∧ wrote = []
  | .replaying rest => took = [] ∧ ∃ sent, d.replay = sent ++ rest ∧ wrote = sent.map .replayed
  | .announcing =>
    took = [] ∧ d.window.start.isSome ∧ wrote = d.replay.map .replayed
  | .checking | .timing | .receiving => ∃ now, wrote = d.opening now ++ d.live took
  | .sending n => ∃ now earlier, took = earlier ++ [n] ∧ d.window.admits n ∧
      wrote = d.opening now ++ d.live earlier
  | .completing => past took ∧ ∃ now, wrote = d.opening now ++ d.live took
  | .leaving | .ended => d.Closes past took wrote

lemma live_append (d : Delivery) (events more : List Notification) :
    d.live (events ++ more) = d.live events ++ d.live more := by
  simp [live]

lemma opening_of_some {d : Delivery} (h : d.window.start.isSome) (now : Time.Instant) :
    d.opening now = d.replay.map .replayed ++ [.replayComplete now] := by
  simp [opening, h]

lemma opening_of_none {d : Delivery} (h : d.window.start.isSome = false) (now : Time.Instant) :
    d.opening now = d.replay.map .replayed := by
  simp [opening, h]

lemma complete_not_mem (d : Delivery) (now : Time.Instant) (events : List Notification)
    (last : Time.Instant) : Note.complete last ∉ d.opening now ++ d.live events := by
  simp only [opening, live, List.mem_append, List.mem_map, not_or]
  refine ⟨⟨by simp, ?_⟩, by simp⟩
  split <;> simp

section Accounts

variable {d : Delivery} {past later : List Notification → Prop} {took : List Notification}
  {wrote : List Note} {stage next : Stage}

lemma Accounts.mono (h : d.Accounts past took wrote stage) (hp : past took → later took) :
    d.Accounts later took wrote stage := by
  cases stage with
  | completing => exact ⟨hp h.1, h.2⟩
  | leaving | ended => exact h.imp_right fun hc => ⟨hp hc.1, hc.2⟩
  | _ => exact h

/-- What was written is never more than what a delivery at its end may have written. -/
lemma Accounts.closes (h : d.Accounts past took wrote stage) : d.Closes past took wrote := by
  cases stage with
  | awaiting | atGate =>
    obtain ⟨-, rfl⟩ := h
    exact .inl ⟨0, List.nil_prefix⟩
  | replaying rest =>
    obtain ⟨-, sent, hr, rfl⟩ := h
    refine .inl ⟨0, ?_⟩
    simp only [opening, hr, List.map_append, List.append_assoc]
    exact List.prefix_append _ _
  | announcing =>
    obtain ⟨-, -, rfl⟩ := h
    refine .inl ⟨0, ?_⟩
    simp only [opening, List.append_assoc]
    exact List.prefix_append _ _
  | checking | timing | receiving =>
    obtain ⟨now, rfl⟩ := h
    exact .inl ⟨now, List.prefix_rfl⟩
  | sending n =>
    obtain ⟨now, earlier, rfl, -, rfl⟩ := h
    refine .inl ⟨now, ?_⟩
    rw [live_append, ← List.append_assoc]
    exact List.prefix_append _ _
  | completing =>
    obtain ⟨-, now, rfl⟩ := h
    exact .inl ⟨now, List.prefix_rfl⟩
  | leaving | ended => exact h

variable {isCancelled : Bool} {gate : Gate} {now : Time.Instant} {queue : List Notification}

lemma Accounts.goes_quiet (h : d.Accounts past took wrote stage)
    (hg : (d.standing isCancelled gate stage).Goes now queue stage none next)
    (hp : stage = .timing → d.window.isOver now → past took) : d.Accounts past took wrote next := by
  cases hg with
  | abandons | turnsAway | stops | ends | rests => exact h.closes
  | looks | waits | goesOn | listens | findsNothing => exact h
  | enters hg =>
    obtain ⟨rfl, rfl⟩ := h
    exact ⟨rfl, [], rfl, rfl⟩
  | announces hs =>
    obtain ⟨rfl, sent, hr, rfl⟩ := h
    rw [List.append_nil] at hr
    rw [← hr]
    exact ⟨rfl, hs, rfl⟩
  | skips hs =>
    obtain ⟨rfl, sent, hr, rfl⟩ := h
    rw [List.append_nil] at hr
    refine ⟨0, ?_⟩
    rw [opening_of_none (d := d) hs, hr]
    exact (List.append_nil _).symm
  | expires ho => exact ⟨hp rfl ho, h⟩

lemma Accounts.goes_took {n : Notification} (h : d.Accounts past took wrote stage)
    (hg : (d.standing isCancelled gate stage).Goes now queue stage (some (.took n)) next) :
    d.Accounts past (took ++ [n]) wrote next := by
  cases hg with
  | takes n rest hq ha =>
    obtain ⟨opened, rfl⟩ := h
    exact ⟨opened, took, rfl, ha, rfl⟩
  | discards n rest hq ha =>
    obtain ⟨opened, rfl⟩ := h
    refine ⟨opened, ?_⟩
    have hnot : d.live [n] = [] := by
      have ha' : d.window.admits n = false := ha
      simp [live, ha']
    rw [live_append, hnot, List.append_nil]

lemma Accounts.goes_wrote {note : Note} (h : d.Accounts past took wrote stage)
    (hg : (d.standing isCancelled gate stage).Goes now queue stage (some (.wrote note)) next) :
    d.Accounts past took (wrote ++ [note]) next := by
  cases hg with
  | replays n rest =>
    obtain ⟨rfl, sent, hr, rfl⟩ := h
    refine ⟨rfl, sent ++ [n], ?_, ?_⟩
    · rw [hr, List.append_assoc, List.singleton_append]
    · rw [List.map_append, List.map_singleton]
  | announced =>
    obtain ⟨rfl, hs, rfl⟩ := h
    refine ⟨now, ?_⟩
    rw [opening_of_some (d := d) hs]
    exact (List.append_nil _).symm
  | sends n =>
    obtain ⟨opened, earlier, rfl, ha, rfl⟩ := h
    refine ⟨opened, ?_⟩
    have hone : d.live [n] = [.live n] := by simp [live, ha]
    rw [live_append, hone, List.append_assoc]
  | completes =>
    obtain ⟨hp, opened, rfl⟩ := h
    exact .inr ⟨hp, opened, now, rfl⟩

lemma Accounts.goes_failed {note : Note} (h : d.Accounts past took wrote stage)
    (hg : (d.standing isCancelled gate stage).Goes now queue stage (some (.failed note)) next) :
    d.Accounts past took wrote next := by
  cases hg
  exact h.closes

/-- A move keeps the account. -/
lemma Accounts.goes {beats : List Beat} {beat : Option Beat}
    (h : d.Accounts past (taken beats) (written beats) stage)
    (hg : (d.standing isCancelled gate stage).Goes now queue stage beat next)
    (hp : stage = .timing → d.window.isOver now → past (taken beats)) :
    d.Accounts past (taken (beats ++ beat.toList)) (written (beats ++ beat.toList)) next := by
  rcases beat with _ | ⟨n⟩ | ⟨note⟩ | ⟨note⟩
  · simpa using h.goes_quiet hg hp
  · simpa [taken, written, Beat.taken?, Beat.written?] using h.goes_took hg
  · simpa [taken, written, Beat.taken?, Beat.written?] using h.goes_wrote hg
  · simpa [taken, written, Beat.taken?, Beat.written?] using h.goes_failed hg

end Accounts

end Delivery

end ManagementServer.Event

namespace ManagementServer.Server.Shared

open Event (Beat Bus Delivery Note Notification Stage taken taken_append written written_append)
open Session (DeliveryRef)

variable {μ : Type} {s : Shared μ} {ref : DeliveryRef} {d : Delivery} {now : Time.Instant}

/-! ## A move -/

def beat? (now : Time.Instant) (ref : DeliveryRef) (s : Shared μ) : Option Beat :=
  match s.delivery? ref with
  | some d => d.beat? now (s.waiting d) (s.socket d.socket).writeFault?.isNone
  | none => none

/-- What a move of a delivery does to what the threads share. -/
structure Moved (now : Time.Instant) (ref : DeliveryRef) (d : Delivery) (s s' : Shared μ)
    (beat : Option Beat) (stage : Stage) : Prop where
  goes : d.Goes now (s.modules.bus.pending d.subscriber) d.stage beat stage
  delivery : s'.delivery? ref = some (d.goTo stage)
  bus : s'.modules.bus = d.onBus beat s.modules.bus
  sockets : ∀ note, beat = some (.wrote note) → ∃ message,
    note.message? d.sessionId = some message ∧ s'.sockets = (s.append d.socket message).sockets
  silent : (∀ note, beat ≠ some (.wrote note)) → s'.sockets = s.sockets

lemma delivery?_modify (hd : s.delivery? ref = some d) (f : Delivery → Delivery) :
    delivery? ref { s with deliveries := s.deliveries.modify ref.number f } = some (f d) := by
  have hi : s.deliveries[ref.number]? = some d := hd
  simp [delivery?, hi]

lemma deliver_go {stage : Stage} (hd : s.delivery? ref = some d)
    (hm : d.move now (s.waiting d) = .go stage) :
    (deliver now ref s).state =
      { s with deliveries := s.deliveries.modify ref.number (·.goTo stage) } := by
  simp [deliver, hd, hm, changeDelivery]

lemma deliver_rest (hd : s.delivery? ref = some d) (hm : d.move now (s.waiting d) = .rest) :
    (deliver now ref s).state = s := by
  simp [deliver, hd, hm]

lemma deliver_receive {stage : Stage} (hd : s.delivery? ref = some d)
    (hm : d.move now (s.waiting d) = .receive stage) :
    (deliver now ref s).state =
      { s with
        modules := { s.modules with bus := s.modules.bus.advance d.subscriber }
        deliveries := s.deliveries.modify ref.number (·.goTo stage) } := by
  simp [deliver, hd, hm, changeDelivery, changeBus]

lemma deliver_unsubscribe (hd : s.delivery? ref = some d)
    (hm : d.move now (s.waiting d) = .unsubscribe) :
    (deliver now ref s).state =
      { s with
        modules := { s.modules with bus := s.modules.bus.unsubscribe d.subscriber }
        deliveries := s.deliveries.modify ref.number (·.goTo .ended) } := by
  simp [deliver, hd, hm, changeDelivery, changeBus]

lemma deliver_write {message : Protocol.ServerMessage} {stage : Stage}
    (hd : s.delivery? ref = some d) (hm : d.move now (s.waiting d) = .write message stage)
    (hw : (s.socket d.socket).writeFault? = none) :
    (deliver now ref s).state =
      { s.append d.socket message with
        deliveries := s.deliveries.modify ref.number (·.goTo stage) } := by
  simp [deliver, hd, hm, write_of_none message hw, changeDelivery, append]

lemma deliver_fail {message : Protocol.ServerMessage} {stage : Stage} {detail : String}
    (hd : s.delivery? ref = some d) (hm : d.move now (s.waiting d) = .write message stage)
    (hw : (s.socket d.socket).writeFault? = some detail) :
    (deliver now ref s).state =
      { s with deliveries := s.deliveries.modify ref.number (·.goTo .leaving) } := by
  simp [deliver, hd, hm, write_of_some message hw, changeDelivery]

/-- A move that only goes on to a stage. -/
lemma moved_go {stage : Stage} (hd : s.delivery? ref = some d)
    (hm : d.move now (s.waiting d) = .go stage) (hl : d.stage ≠ .leaving)
    (hg : d.Goes now (s.modules.bus.pending d.subscriber) d.stage none stage) :
    Moved now ref d s (deliver now ref s).state none stage := by
  rw [deliver_go hd hm]
  refine ⟨hg, delivery?_modify hd _, ?_, ?_, fun _ => rfl⟩
  · exact (Delivery.onBus_of_quiet hl (by simp) _).symm
  · intro note hn
    cases hn

/-- A move from a stage from which nothing is taken or written. -/
lemma moved_quiet {stage next : Stage} (hd : s.delivery? ref = some d) (hs : d.stage = stage)
    (hq : stage.isQuiet)
    (hg : d.Goes now (s.modules.bus.pending d.subscriber) stage none next) :
    ∃ next, Moved now ref d s (deliver now ref s).state (s.beat? now ref) next := by
  have hb : s.beat? now ref = none := by
    simp [beat?, hd, Delivery.beat?_of_quiet hs hq]
  have hl : d.stage ≠ .leaving := by
    rintro hl
    rw [← hs, hl] at hq
    cases hq
  rw [hb]
  refine ⟨next, moved_go hd (hg.move_quiet hs hq _) hl ?_⟩
  rw [hs]
  exact hg

/-- A move that is to write a note. -/
lemma moved_note {note : Note} {stage next : Stage} (hd : s.delivery? ref = some d)
    (hs : d.stage = stage)
    (hg : d.Goes now (s.modules.bus.pending d.subscriber) stage (some (.wrote note)) next) :
    ∃ next, Moved now ref d s (deliver now ref s).state (s.beat? now ref) next := by
  obtain ⟨hn, hm⟩ := hg.move_note hs (s.waiting d)
  have hl : d.stage ≠ .leaving := by
    intro hl
    simp [Delivery.note?, hl] at hn
  have hfail : (deliver now ref s).state =
        { s with deliveries := s.deliveries.modify ref.number (·.goTo .leaving) } →
      Moved now ref d s (deliver now ref s).state (some (.failed note)) .leaving := by
    intro he
    rw [he]
    refine ⟨.fails _ note rfl hn, delivery?_modify hd _,
      (Delivery.onBus_of_quiet hl (by simp) _).symm, ?_, fun _ => rfl⟩
    intro other ho
    cases ho
  unfold Delivery.send at hm
  -- A note whose time cannot be written ends the delivery as a write that fails does.
  cases ht : note.message? d.sessionId with
  | none =>
    have hb : s.beat? now ref = some (.failed note) := by
      simp [beat?, hd, Delivery.beat?, hn, ht]
    rw [Note.message?] at ht
    rw [ht] at hm
    rw [hb]
    exact ⟨_, hfail (deliver_go hd hm)⟩
  | some message =>
    have hb : s.beat? now ref = some
        (if (s.socket d.socket).writeFault?.isNone then .wrote note else .failed note) := by
      simp [beat?, hd, Delivery.beat?, hn, ht]
    have hsend := ht
    rw [Note.message?] at hsend
    rw [hsend] at hm
    rw [hb]
    cases hw : (s.socket d.socket).writeFault? with
    | some detail => exact ⟨_, hfail (deliver_fail hd hm hw)⟩
    | none =>
      refine ⟨next, ?_⟩
      rw [deliver_write hd hm hw]
      refine ⟨?_, delivery?_modify hd _, (Delivery.onBus_of_quiet hl (by simp) _).symm, ?_, ?_⟩
      · rw [hs]
        exact hg
      · intro other ho
        obtain rfl : note = other := by simpa using ho
        exact ⟨message, ht, rfl⟩
      · intro hno
        exact absurd rfl (hno note)

lemma moved_receive (hd : s.delivery? ref = some d) (hs : d.stage = .receiving) :
    ∃ next, Moved now ref d s (deliver now ref s).state (s.beat? now ref) next := by
  cases hq : s.modules.bus.pending d.subscriber with
  | nil =>
    have hm : d.move now (s.waiting d) = .go .checking := by
      simp [Delivery.move, hs, waiting, hq]
    have hb : s.beat? now ref = none := by
      simp [beat?, hd, Delivery.beat?, Delivery.note?, hs, waiting, hq]
    rw [hb]
    refine ⟨.checking, moved_go hd hm (by simp [hs]) ?_⟩
    rw [hs]
    exact .findsNothing hq
  | cons n rest =>
    have hb : s.beat? now ref = some (.took n) := by
      simp [beat?, hd, Delivery.beat?, Delivery.note?, hs, waiting, hq]
    have htake : ∀ next, d.move now (s.waiting d) = .receive next →
        d.Goes now (s.modules.bus.pending d.subscriber) d.stage (some (.took n)) next →
        Moved now ref d s (deliver now ref s).state (some (.took n)) next := by
      intro next hm hg
      rw [deliver_receive hd hm]
      refine ⟨hg, delivery?_modify hd _, ?_, by simp, fun _ => rfl⟩
      simp [Delivery.onBus, hs]
    rw [hb]
    by_cases ha : d.window.admits n
    · refine ⟨.sending n, htake _ ?_ ?_⟩
      · simp [Delivery.move, hs, waiting, hq, ha]
      · rw [hs]
        exact .takes n rest hq ha
    · refine ⟨.checking, htake _ ?_ ?_⟩
      · simp [Delivery.move, hs, waiting, hq, ha]
      · rw [hs]
        exact .discards n rest hq (by simpa using ha)

/-- What a move of a delivery does. -/
lemma moved_deliver (now : Time.Instant) (hd : s.delivery? ref = some d) :
    ∃ next, Moved now ref d s (deliver now ref s).state (s.beat? now ref) next := by
  cases hs : d.stage with
  | awaiting =>
    cases hc : d.isCancelled with
    | true => exact moved_quiet hd hs rfl (.abandons hc)
    | false => exact moved_quiet hd hs rfl (.looks hc)
  | atGate =>
    cases hg : d.gate with
    | waiting => exact moved_quiet hd hs rfl (.waits hg)
    | opened => exact moved_quiet hd hs rfl (.enters hg)
    | dropped => exact moved_quiet hd hs rfl (.turnsAway hg)
  | replaying rest =>
    cases rest with
    | cons n rest => exact moved_note hd hs (.replays n rest)
    | nil =>
      cases hw : d.window.start.isSome with
      | true => exact moved_quiet hd hs rfl (.announces hw)
      | false => exact moved_quiet hd hs rfl (.skips hw)
  | announcing => exact moved_note hd hs .announced
  | checking =>
    cases hc : d.isCancelled with
    | true => exact moved_quiet hd hs rfl (.stops hc)
    | false => exact moved_quiet hd hs rfl (.goesOn hc)
  | timing =>
    cases ho : d.window.isOver now with
    | true => exact moved_quiet hd hs rfl (.expires ho)
    | false => exact moved_quiet hd hs rfl (.listens ho)
  | receiving => exact moved_receive hd hs
  | sending n => exact moved_note hd hs (.sends n)
  | completing => exact moved_note hd hs .completes
  | leaving =>
    have hb : s.beat? now ref = none := by
      simp [beat?, hd, Delivery.beat?, Delivery.note?, hs]
    refine ⟨.ended, ?_⟩
    rw [hb, deliver_unsubscribe hd (by simp [Delivery.move, hs])]
    refine ⟨?_, delivery?_modify hd _, by simp [Delivery.onBus, hs], by simp, fun _ => rfl⟩
    rw [hs]
    exact .ends
  | ended =>
    have hb : s.beat? now ref = none := by
      simp [beat?, hd, Delivery.beat?, Delivery.note?, hs]
    refine ⟨.ended, ?_⟩
    rw [hb, deliver_rest hd (by simp [Delivery.move, hs])]
    refine ⟨?_, ?_, by simp [Delivery.onBus, hs], by simp, fun _ => rfl⟩
    · rw [hs]
      exact .rests
    · rw [hd, Delivery.goTo, ← hs]

lemma socket_congr {s s' : Shared μ} (h : s'.sockets = s.sockets) (id : SocketId) :
    s'.socket id = s.socket id := by
  rw [socket, h, socket]

lemma outgoing_append {id : SocketId} (h : id.number < s.sockets.length)
    (message : Protocol.ServerMessage) :
    ((s.append id message).socket id).outgoing = (s.socket id).outgoing ++ [message] := by
  rw [append, socket_modify, if_pos ⟨rfl, h⟩]

/-- A move puts on its socket the message of what it writes, and nothing else. -/
lemma Moved.wire {s' : Shared μ} {beat : Option Beat} {stage : Stage}
    (h : Moved now ref d s s' beat stage) (hs : d.socket.number < s.sockets.length) :
    s'.sockets.length = s.sockets.length ∧ ∃ messages,
      (written beat.toList).map (·.message? d.sessionId) = messages.map some ∧
        (s'.socket d.socket).outgoing = (s.socket d.socket).outgoing ++ messages := by
  by_cases hw : ∃ note, beat = some (.wrote note)
  · obtain ⟨note, rfl⟩ := hw
    obtain ⟨message, hmessage, hsockets⟩ := h.sockets note rfl
    refine ⟨?_, [message], ?_, ?_⟩
    · rw [hsockets, append, List.length_modify]
    · simp [written, Beat.written?, hmessage]
    · rw [socket_congr hsockets]
      exact outgoing_append hs message
  · have hsilent : written beat.toList = [] := by
      rcases beat with _ | ⟨n⟩ | ⟨note⟩ | ⟨note⟩
      case some.wrote => exact absurd ⟨note, rfl⟩ hw
      all_goals rfl
    have hsockets := h.silent fun note he => hw ⟨note, he⟩
    refine ⟨by rw [hsockets], [], ?_, ?_⟩
    · rw [hsilent]
      rfl
    · rw [socket_congr hsockets, List.append_nil]

end ManagementServer.Server.Shared
