import ManagementServer.Device.Scripted
import ManagementServer.Proofs.DeliveryMoves
import ManagementServer.Server.Dispatch

/-!
# The course of a delivery

A delivery from its start on, along everything that can happen to it: it moves, its request is
answered or not, it is cancelled, events are published, writing fails. `Begins.course` says what it
writes, and `written_before_complete` what it has written before the event that ends it.
-/

namespace ManagementServer.Server.Shared

open Event (Beat Bus Delivery Note Notification Stage taken taken_append written written_append)
open Session (DeliveryRef)

variable {μ : Type} {s : Shared μ} {ref : DeliveryRef} {d : Delivery} {now : Time.Instant}

/-! ## A schedule -/

/-- What can happen to a delivery and around it. While there is a fault nothing can be written. -/
inductive Occasion where
  | moves (now : Time.Instant)
  | answered (gate : Event.Gate)
  | cancelled
  | published (event : Notification)
  | faulted (fault : Option String)

namespace Occasion

def act (ref : DeliveryRef) (socket : SocketId) (s : Shared μ) : Occasion → Shared μ
  | .moves now => (deliver now ref s).state
  | .answered gate => (setGate ref gate s).state
  | .cancelled => (cancel ref s).state
  | .published n => (changeBus (·.publish n) s).state
  | .faulted fault => (changeSocket socket ({ · with fault }) s).state

def beat? (ref : DeliveryRef) (s : Shared μ) : Occasion → Option Beat
  | .moves now => s.beat? now ref
  | _ => none

def published? : Occasion → Option Notification
  | .published n => some n
  | _ => none

end Occasion

/-- The state behind a schedule. -/
def along (ref : DeliveryRef) (socket : SocketId) (s : Shared μ) (occasions : List Occasion) :
    Shared μ :=
  occasions.foldl (Occasion.act ref socket) s

/-- What others can tell of a delivery along a schedule. -/
def beats (ref : DeliveryRef) (socket : SocketId) (s : Shared μ) : List Occasion → List Beat
  | [] => []
  | o :: rest => (o.beat? ref s).toList ++ beats ref socket (o.act ref socket s) rest

/-- The events that are published along a schedule. -/
def publications (occasions : List Occasion) : List Notification :=
  occasions.filterMap (·.published?)

lemma along_append (ref : DeliveryRef) (socket : SocketId) (s : Shared μ)
    (occasions rest : List Occasion) :
    along ref socket s (occasions ++ rest) = along ref socket (along ref socket s occasions) rest :=
  List.foldl_append

lemma beats_append (ref : DeliveryRef) (socket : SocketId) (s : Shared μ)
    (occasions rest : List Occasion) :
    beats ref socket s (occasions ++ rest) =
      beats ref socket s occasions ++ beats ref socket (along ref socket s occasions) rest := by
  induction occasions generalizing s with
  | nil => rfl
  | cons o occasions ih =>
    rw [List.cons_append, beats, beats, ih, List.append_assoc]
    rfl

lemma publications_append (occasions rest : List Occasion) :
    publications (occasions ++ rest) = publications occasions ++ publications rest :=
  List.filterMap_append

/-- A delivery at its start, which the bus knows and for which no event waits. -/
structure Begins (s : Shared μ) (ref : DeliveryRef) (d : Delivery) : Prop where
  found : s.delivery? ref = some d
  start : d = .start d.sessionId d.socket d.window d.subscriber d.replay
  known : d.subscriber ∈ s.modules.bus.numbers
  channel : s.modules.bus.pending d.subscriber = []
  socket : d.socket.number < s.sockets.length

/-- A schedule that comes to where the delivery reads the clock, behind the end of its span. What
was published by then was taken from the channel or waits in it. -/
structure Expires (ref : DeliveryRef) (d : Delivery) (s : Shared μ)
    (occasions earlier : List Occasion) (now : Time.Instant) (later : List Occasion) : Prop where
  split : occasions = earlier ++ Occasion.moves now :: later
  isOver : d.window.isOver now
  reading : ∃ isCancelled gate,
    (along ref d.socket s earlier).delivery? ref = some (d.standing isCancelled gate .timing)
  channel : taken (beats ref d.socket s earlier) ++
    (along ref d.socket s earlier).modules.bus.pending d.subscriber = publications earlier

/-- The clock was read behind the end of the span when so much had been taken from the channel. -/
def Past (ref : DeliveryRef) (d : Delivery) (s : Shared μ) (occasions : List Occasion)
    (took : List Notification) : Prop :=
  ∃ earlier now later, Expires ref d s occasions earlier now later ∧
    taken (beats ref d.socket s earlier) = took

/-- Where a delivery stands behind a schedule. -/
structure Stands (ref : DeliveryRef) (d : Delivery) (s : Shared μ) (occasions : List Occasion)
    (isCancelled : Bool) (gate : Event.Gate) (stage : Stage) : Prop where
  found : (along ref d.socket s occasions).delivery? ref =
    some (d.standing isCancelled gate stage)
  accounts : d.Accounts (Past ref d s occasions) (taken (beats ref d.socket s occasions))
    (written (beats ref d.socket s occasions)) stage
  opened : gate = .opened ∨ stage.isStreaming ∨ beats ref d.socket s occasions ≠ [] →
    Occasion.answered .opened ∈ occasions
  channel : stage ≠ .ended →
    d.subscriber ∈ (along ref d.socket s occasions).modules.bus.numbers ∧
      taken (beats ref d.socket s occasions) ++
        (along ref d.socket s occasions).modules.bus.pending d.subscriber =
          publications occasions
  received : taken (beats ref d.socket s occasions) <+: publications occasions
  socket : d.socket.number < (along ref d.socket s occasions).sockets.length
  wire : ∃ messages,
    (written (beats ref d.socket s occasions)).map (·.message? d.sessionId) = messages.map some ∧
      ((along ref d.socket s occasions).socket d.socket).outgoing =
        (s.socket d.socket).outgoing ++ messages

section Stands

variable {isCancelled : Bool} {gate : Event.Gate} {stage : Stage} {occasions : List Occasion}

lemma Begins.stands (h : Begins s ref d) : Stands ref d s [] false .waiting .awaiting := by
  refine ⟨?_, ⟨rfl, rfl⟩, ?_, ?_, List.nil_prefix, h.socket, [], rfl, (List.append_nil _).symm⟩
  · exact h.found.trans (congrArg some h.start)
  · simp [Stage.isStreaming, beats]
  · exact fun _ => ⟨h.known, h.channel⟩

lemma Past.mono {took : List Notification} (h : Past ref d s occasions took) (o : Occasion) :
    Past ref d s (occasions ++ [o]) took := by
  obtain ⟨earlier, now, later, he, htook⟩ := h
  refine ⟨earlier, now, later ++ [o], ⟨?_, he.isOver, he.reading, he.channel⟩, htook⟩
  rw [he.split, List.append_assoc, List.cons_append]

lemma along_concat (o : Occasion) :
    along ref d.socket s (occasions ++ [o]) = o.act ref d.socket (along ref d.socket s occasions) :=
  along_append _ _ _ _ _

lemma beats_concat (o : Occasion) :
    beats ref d.socket s (occasions ++ [o]) =
      beats ref d.socket s occasions ++ (o.beat? ref (along ref d.socket s occasions)).toList := by
  rw [beats_append, beats, beats, List.append_nil]

/-- Where a delivery stands behind something that happens around it. -/
lemma Stands.around (h : Stands ref d s occasions isCancelled gate stage) {o : Occasion}
    {isCancelled' : Bool} {gate' : Event.Gate}
    (hb : o.beat? ref (along ref d.socket s occasions) = none)
    (hf : (along ref d.socket s (occasions ++ [o])).delivery? ref =
      some (d.standing isCancelled' gate' stage))
    (hg : gate' = .opened → gate = .opened ∨ o = .answered .opened)
    (hc : d.subscriber ∈ (along ref d.socket s occasions).modules.bus.numbers →
      d.subscriber ∈ (along ref d.socket s (occasions ++ [o])).modules.bus.numbers ∧
        (along ref d.socket s (occasions ++ [o])).modules.bus.pending d.subscriber =
          (along ref d.socket s occasions).modules.bus.pending d.subscriber ++
            o.published?.toList)
    (hl : (along ref d.socket s (occasions ++ [o])).sockets.length =
      (along ref d.socket s occasions).sockets.length)
    (ho : ((along ref d.socket s (occasions ++ [o])).socket d.socket).outgoing =
      ((along ref d.socket s occasions).socket d.socket).outgoing) :
    Stands ref d s (occasions ++ [o]) isCancelled' gate' stage := by
  have hbeats : beats ref d.socket s (occasions ++ [o]) = beats ref d.socket s occasions := by
    rw [beats_concat, hb]
    exact List.append_nil _
  have hpubs : publications (occasions ++ [o]) = publications occasions ++ o.published?.toList := by
    rw [publications_append]
    cases hp : o.published? <;> simp [publications, hp]
  refine ⟨hf, ?_, ?_, ?_, ?_, ?_, ?_⟩
  · rw [hbeats]
    exact h.accounts.mono fun hp => hp.mono o
  · rw [hbeats]
    intro hc
    rw [List.mem_append, List.mem_singleton]
    rcases hc with hc | hc
    · exact (hg hc).imp (fun hg => h.opened (.inl hg)) Eq.symm
    · exact .inl (h.opened (.inr hc))
  · intro hs
    obtain ⟨hknown, hqueue⟩ := h.channel hs
    obtain ⟨hknown', hpending⟩ := hc hknown
    refine ⟨hknown', ?_⟩
    rw [hbeats, hpubs, hpending, ← List.append_assoc, hqueue]
  · rw [hbeats, hpubs]
    exact h.received.trans (List.prefix_append _ _)
  · rw [hl]
    exact h.socket
  · rw [hbeats, ho]
    exact h.wire

/-- What happens around a delivery changes its flags, adds to its channel, and leaves the rest. -/
lemma Stands.still (h : Stands ref d s occasions isCancelled gate stage) {o : Occasion}
    (ho : ∀ now, o ≠ .moves now) :
    ∃ isCancelled gate, Stands ref d s (occasions ++ [o]) isCancelled gate stage := by
  have halong : along ref d.socket s (occasions ++ [o]) =
      o.act ref d.socket (along ref d.socket s occasions) := along_concat o
  have hsame : ∀ bus : Bus, bus = (along ref d.socket s occasions).modules.bus →
      bus.pending d.subscriber =
        (along ref d.socket s occasions).modules.bus.pending d.subscriber ++ [] := by
    rintro bus rfl
    exact (List.append_nil _).symm
  cases o with
  | moves now => exact absurd rfl (ho now)
  | answered gate' =>
    refine ⟨isCancelled, gate', h.around rfl ?_ (fun hg => .inr (by rw [hg])) ?_ ?_ ?_⟩
    all_goals rw [halong]
    · exact delivery?_modify h.found _
    · exact fun hknown => ⟨hknown, hsame _ rfl⟩
    · rfl
    · rfl
  | cancelled =>
    refine ⟨true, gate, h.around rfl ?_ .inl ?_ ?_ ?_⟩
    all_goals rw [halong]
    · exact delivery?_modify h.found _
    · exact fun hknown => ⟨hknown, hsame _ rfl⟩
    · rfl
    · rfl
  | published n =>
    refine ⟨isCancelled, gate, h.around rfl ?_ .inl ?_ ?_ ?_⟩
    all_goals rw [halong]
    · exact h.found
    · intro hknown
      exact ⟨(Bus.numbers_publish _ n).symm ▸ hknown, Bus.pending_publish hknown n⟩
    · rfl
    · rfl
  | faulted fault =>
    refine ⟨isCancelled, gate, h.around rfl ?_ .inl ?_ ?_ ?_⟩
    all_goals rw [halong]
    · exact h.found
    · exact fun hknown => ⟨hknown, hsame _ rfl⟩
    · exact List.length_modify _ _ _
    · refine (congrArg (·.outgoing) (socket_modify _ d.socket d.socket _)).trans ?_
      split <;> rfl

/-- What a move does to where a delivery stands. -/
lemma Stands.moves (h : Stands ref d s occasions isCancelled gate stage) (now : Time.Instant) :
    ∃ next, Stands ref d s (occasions ++ [.moves now]) isCancelled gate next := by
  obtain ⟨next, hm⟩ := moved_deliver now h.found
  have halong : along ref d.socket s (occasions ++ [.moves now]) =
      (deliver now ref (along ref d.socket s occasions)).state := along_concat _
  have hbeats : beats ref d.socket s (occasions ++ [.moves now]) =
      beats ref d.socket s occasions ++
        ((along ref d.socket s occasions).beat? now ref).toList := beats_concat _
  have hpubs : publications (occasions ++ [.moves now]) = publications occasions := by
    rw [publications_append]
    exact List.append_nil _
  rw [← halong] at hm
  generalize (along ref d.socket s occasions).beat? now ref = beat at hm hbeats
  have hgoes : (d.standing isCancelled gate stage).Goes now
      ((along ref d.socket s occasions).modules.bus.pending d.subscriber) stage beat next := hm.goes
  obtain ⟨hlength, more, hmore, hadded⟩ := hm.wire h.socket
  refine ⟨next, ⟨hm.delivery, ?_, ?_, ?_, ?_, ?_, ?_⟩⟩
  · have hover : stage = .timing → d.window.isOver now →
        Past ref d s (occasions ++ [.moves now]) (taken (beats ref d.socket s occasions)) := by
      intro ht ho
      have hc := h.channel (by rw [ht]; simp)
      exact ⟨occasions, now, [], ⟨rfl, ho, ⟨isCancelled, gate, ht ▸ h.found⟩, hc.2⟩, rfl⟩
    rw [hbeats]
    exact (h.accounts.mono fun hp => hp.mono _).goes hgoes hover
  · intro hc
    apply List.mem_append_left
    apply h.opened
    rcases hc with hc | hc
    · exact .inl hc
    · by_cases hold : beats ref d.socket s occasions = []
      · rw [hbeats, hold] at hc
        have hb : next.isStreaming ∨ beat ≠ none := hc.imp_right (by rintro hb rfl; exact hb rfl)
        exact (hgoes.streams hb).symm.imp_right .inl
      · exact .inr (.inr hold)
  · intro hn
    obtain ⟨hl, he⟩ := hgoes.ne_leaving hn
    obtain ⟨hknown, hqueue⟩ := h.channel he
    obtain ⟨hnumbers, hpending⟩ := hgoes.channel rfl hn
    rw [hbeats, hpubs, hm.bus, hnumbers, taken_append, List.append_assoc]
    exact ⟨hknown, (congrArg _ hpending).trans hqueue⟩
  · rw [hbeats, hpubs, taken_append]
    by_cases hn : next = .ended
    · subst hn
      rw [hgoes.silent]
      simpa [taken] using h.received
    · have hqueue := (h.channel (hgoes.ne_leaving hn).2).2
      have hpending : taken beat.toList ++ _ =
          (along ref d.socket s occasions).modules.bus.pending d.subscriber :=
        (hgoes.channel rfl hn).2
      rw [← hqueue, ← hpending, ← List.append_assoc]
      exact List.prefix_append _ _
  · rw [hlength]
    exact h.socket
  · obtain ⟨messages, hmessages, hout⟩ := h.wire
    refine ⟨messages ++ more, ?_, ?_⟩
    · rw [hbeats, written_append, List.map_append, hmessages, List.map_append]
      exact congrArg _ hmore
    · rw [← List.append_assoc, ← hout]
      exact hadded

lemma Begins.stands_along (h : Begins s ref d) (occasions : List Occasion) :
    ∃ isCancelled gate stage, Stands ref d s occasions isCancelled gate stage := by
  -- From the right, since `Stands` speaks of the whole schedule from the start on.
  induction occasions using List.reverseRecOn with
  | nil => exact ⟨_, _, _, h.stands⟩
  | append_singleton occasions o ih =>
    obtain ⟨isCancelled, gate, stage, hs⟩ := ih
    by_cases ho : ∃ now, o = .moves now
    · obtain ⟨now, rfl⟩ := ho
      obtain ⟨next, hnext⟩ := hs.moves now
      exact ⟨_, _, _, hnext⟩
    · obtain ⟨c, g, hnext⟩ := hs.still fun now he => ho ⟨now, he⟩
      exact ⟨_, _, _, hnext⟩

end Stands

/-! ## What holds of every schedule -/

/-- What can happen to a delivery in one go: its flags change, or it makes a move. -/
lemma act_cases (hd : s.delivery? ref = some d) (socket : SocketId) (o : Occasion) :
    ∃ isCancelled gate next,
      (o.act ref socket s).delivery? ref = some (d.standing isCancelled gate next) ∧
        (d.isCancelled ∨ o = .cancelled → isCancelled) ∧
        (o.beat? ref s = none ∧ next = d.stage ∨
          ∃ now queue, d.Goes now queue d.stage (o.beat? ref s) next) := by
  cases o with
  | moves now =>
    obtain ⟨next, hm⟩ := moved_deliver now hd
    exact ⟨_, _, next, hm.delivery, by simp, .inr ⟨_, _, hm.goes⟩⟩
  | answered gate => exact ⟨_, gate, _, delivery?_modify hd _, by simp, .inl ⟨rfl, rfl⟩⟩
  | cancelled => exact ⟨true, _, _, delivery?_modify hd _, by simp, .inl ⟨rfl, rfl⟩⟩
  | published n => exact ⟨_, _, _, hd, by simp, .inl ⟨rfl, rfl⟩⟩
  | faulted fault => exact ⟨_, _, _, hd, by simp, .inl ⟨rfl, rfl⟩⟩

/-- Nothing is taken or written by a delivery that has come to its end. -/
lemma beats_of_left (socket : SocketId) (hd : s.delivery? ref = some d)
    (hl : d.stage = .leaving ∨ d.stage = .ended) (occasions : List Occasion) :
    beats ref socket s occasions = [] := by
  induction occasions generalizing s d with
  | nil => rfl
  | cons o rest ih =>
    obtain ⟨c, g, next, hd', -, hact⟩ := act_cases hd socket o
    have hstill : o.beat? ref s = none ∧ (next = .leaving ∨ next = .ended) := by
      rcases hact with ⟨hb, rfl⟩ | ⟨now, queue, hg⟩
      · exact ⟨hb, hl⟩
      · have hne : next = .ended := by
          by_contra hn
          have hstage := hg.ne_leaving hn
          exact hl.elim hstage.1 hstage.2
        subst hne
        exact ⟨hg.silent, .inr rfl⟩
    rw [beats, hstill.1, ih hd' hstill.2]
    rfl

/-- Behind a write that fails and behind the event that ends a subscription nothing happens. -/
lemma pairwise_beats (socket : SocketId) (hd : s.delivery? ref = some d)
    (occasions : List Occasion) :
    (beats ref socket s occasions).Pairwise fun earlier _ => earlier.isLast = false := by
  induction occasions generalizing s d with
  | nil => exact .nil
  | cons o rest ih =>
    obtain ⟨c, g, next, hd', -, hact⟩ := act_cases hd socket o
    have hrest := ih hd'
    rw [beats]
    cases hb : o.beat? ref s with
    | none => exact hrest
    | some beat =>
      apply List.Pairwise.cons _ hrest
      intro later hlater
      rcases hact with ⟨hnone, -⟩ | ⟨now, queue, hg⟩
      · rw [hb] at hnone
        cases hnone
      · by_contra hlast
        have hleft : next = .leaving := by
          rw [hb] at hg
          exact hg.leaves_of_isLast (by simpa using hlast)
        rw [beats_of_left socket hd' (.inl hleft)] at hlater
        cases hlater

lemma live_le_budget (socket : SocketId) (hd : s.delivery? ref = some d)
    (hc : d.isCancelled) (occasions : List Occasion) :
    (written (beats ref socket s occasions)).countP (·.isLive) ≤ d.stage.budget := by
  induction occasions generalizing s d with
  | nil => exact Nat.zero_le _
  | cons o rest ih =>
    obtain ⟨c, g, next, hd', hcancel, hact⟩ := act_cases hd socket o
    have hrest := ih hd' (hcancel (.inl hc))
    have hstage : (d.standing c g next).stage = next := rfl
    rw [hstage] at hrest
    rw [beats, written_append, List.countP_append]
    rcases hact with ⟨hb, rfl⟩ | ⟨now, queue, hg⟩
    · rw [hb]
      simpa [written] using hrest
    · have hstep := hg.budget hc
      omega

/-- What a delivery takes and writes along a schedule. -/
structure Course (ref : DeliveryRef) (d : Delivery) (s : Shared μ) (occasions : List Occasion) :
    Prop where
  order : ∃ opened closing,
    written (beats ref d.socket s occasions) <+:
      d.opening opened ++ d.live (taken (beats ref d.socket s occasions)) ++ closing ∧
    (closing = [] ∨ ∃ last now, closing = [.complete last] ∧ .moves now ∈ occasions ∧
      d.window.isOver now)
  received : taken (beats ref d.socket s occasions) <+: publications occasions
  wire : ∃ messages,
    (written (beats ref d.socket s occasions)).map (·.message? d.sessionId) = messages.map some ∧
      ((along ref d.socket s occasions).socket d.socket).outgoing =
        (s.socket d.socket).outgoing ++ messages
  opened : beats ref d.socket s occasions ≠ [] → .answered .opened ∈ occasions
  last : (beats ref d.socket s occasions).Pairwise fun earlier _ => earlier.isLast = false
  cancelled : ∀ earlier later, occasions = earlier ++ .cancelled :: later →
    (written (beats ref d.socket (along ref d.socket s earlier) (.cancelled :: later))).countP
      (·.isLive) ≤ 1

lemma Begins.course (h : Begins s ref d) (occasions : List Occasion) :
    Course ref d s occasions := by
  obtain ⟨c, g, stage, hs⟩ := h.stands_along occasions
  refine ⟨?_, hs.received, hs.wire, fun hb => hs.opened (.inr (.inr hb)),
    pairwise_beats d.socket h.found occasions, ?_⟩
  · rcases hs.accounts.closes with ⟨opened, hw⟩ | ⟨hpast, opened, last, hw⟩
    · exact ⟨opened, [], by rwa [List.append_nil], .inl rfl⟩
    · obtain ⟨earlier, now, later, he, -⟩ := hpast
      refine ⟨opened, [.complete last], hw ▸ List.prefix_rfl, .inr ⟨last, now, rfl, ?_, he.isOver⟩⟩
      rw [he.split]
      exact List.mem_append_right _ List.mem_cons_self
  · intro earlier later he
    obtain ⟨c, g, stage, hbefore⟩ := h.stands_along earlier
    rw [beats]
    have hd : (Occasion.cancelled.act ref d.socket (along ref d.socket s earlier)).delivery? ref =
        some (d.standing true g stage) := delivery?_modify hbefore.found _
    have hbudget := live_le_budget d.socket hd rfl later
    have hone : stage.budget ≤ 1 := by cases stage <;> simp [Stage.budget]
    exact Nat.le_trans hbudget hone

/-! ## A subscription's delivery -/

/-- The delivery that a subscription starts. -/
lemma begins_subscribe [Device.DeviceModule μ] {env : Environment} {close : Closer μ}
    {socket : SocketId} {session : Session.Ref} {request : Protocol.Request}
    {window : Event.Window} {made : Shared μ}
    (hstep : (Dispatch.step env close socket session request (.subscribe window) s).value =
      .attach ref)
    (hmade : (Dispatch.step env close socket session request (.subscribe window) s).state = made)
    (hnumber : s.modules.bus.nextId ∉ s.modules.bus.numbers)
    (hsocket : socket.number < s.sockets.length) :
    ∃ d, Begins made ref d ∧ d.socket = socket ∧ d.window = window ∧
      d.replay = s.modules.bus.replay window.start window.stop := by
  cases hf : env.threadFault with
  | some detail => simp [Dispatch.step, hf] at hstep
  | none =>
    have hstate : made =
        { s with
          modules := { s.modules with bus := (s.modules.bus.subscribe window.start window.stop).1 }
          deliveries := s.deliveries ++ [.start (s.sessions.record session).id socket window
            s.modules.bus.nextId (s.modules.bus.replay window.start window.stop)] } := by
      rw [← hmade]
      simp [Dispatch.step, hf, changeBus, Bus.subscribe]
    obtain rfl : ref = ⟨s.deliveries.length⟩ := by
      simpa [Dispatch.step, hf, changeBus] using hstep.symm
    refine ⟨.start (s.sessions.record session).id socket window s.modules.bus.nextId
      (s.modules.bus.replay window.start window.stop), ⟨?_, rfl, ?_, ?_, ?_⟩, rfl, rfl, rfl⟩
    · rw [hstate]
      simp [delivery?]
    · rw [hstate]
      simp [Delivery.start, Bus.numbers_subscribe]
    · rw [hstate]
      exact Bus.pending_subscribe_self hnumber window.start window.stop
    · rw [hstate]
      exact hsocket

/-- An event that was taken before the clock was read behind the end of the span is written, if the
span admits it. -/
lemma Expires.live_mem {occasions earlier later : List Occasion} {before : List Note}
    {opened : Time.Instant} {n : Notification}
    (h : Expires ref d s occasions earlier now later)
    (hw : d.opening opened ++ d.live (taken (beats ref d.socket s earlier)) <+: before)
    (hn : n ∈ publications occasions) (ha : d.window.admits n) :
    Note.live n ∈ before ∨
      n ∈ (along ref d.socket s earlier).modules.bus.pending d.subscriber ∨
        n ∈ publications later := by
  have hlater : publications (Occasion.moves now :: later) = publications later := rfl
  rw [h.split, publications_append, hlater, List.mem_append, ← h.channel, List.mem_append] at hn
  rcases hn with (hn | hn) | hn
  · refine .inl (hw.subset (List.mem_append_right _ ?_))
    exact List.mem_map.mpr ⟨n, List.mem_filter.mpr ⟨hn, ha⟩, rfl⟩
  · exact .inr (.inl hn)
  · exact .inr (.inr hn)

/-- Before the event that ends a subscription stands, in order, whatever of the span had been
received when the clock was read behind its end. An event of the span that is missing there was
still in the channel, or came later. -/
theorem written_before_complete [Device.DeviceModule μ] (env : Environment) (close : Closer μ)
    (socket : SocketId) (session : Session.Ref) (request : Protocol.Request)
    (window : Event.Window) (s made : Shared μ) (ref : DeliveryRef)
    (hstep : (Dispatch.step env close socket session request (.subscribe window) s).value =
      .attach ref)
    (hmade : (Dispatch.step env close socket session request (.subscribe window) s).state = made)
    (hnumber : s.modules.bus.nextId ∉ s.modules.bus.numbers)
    (hsocket : socket.number < s.sockets.length) (occasions : List Occasion)
    (last : Time.Instant)
    (hlast : Note.complete last ∈ written (beats ref socket made occasions)) :
    ∃ d, made.delivery? ref = some d ∧ d.socket = socket ∧ d.window = window ∧
      d.replay = s.modules.bus.replay window.start window.stop ∧
      ∃ earlier now later before opened, Expires ref d made occasions earlier now later ∧
        written (beats ref socket made occasions) = before ++ [.complete last] ∧
        d.opening opened ++ d.live (taken (beats ref socket made earlier)) <+: before ∧
        ∀ n ∈ publications occasions, window.admits n → Note.live n ∈ before ∨
          n ∈ (along ref socket made earlier).modules.bus.pending d.subscriber ∨
            n ∈ publications later := by
  obtain ⟨d, hd, rfl, rfl, hreplay⟩ := begins_subscribe hstep hmade hnumber hsocket
  obtain ⟨c, g, stage, hs⟩ := hd.stands_along occasions
  refine ⟨d, hd.found, rfl, rfl, hreplay, ?_⟩
  rcases hs.accounts.closes with ⟨opened, hw⟩ | ⟨hpast, opened, last', hw⟩
  · exact absurd (hw.subset hlast) (d.complete_not_mem opened _ last)
  · obtain ⟨earlier, now, later, he, htook⟩ := hpast
    obtain rfl : last = last' := by
      rw [hw, List.mem_append, List.mem_singleton] at hlast
      rcases hlast with hm | hm
      · exact absurd hm (d.complete_not_mem opened _ last)
      · exact Note.complete.inj hm
    rw [← htook] at hw
    refine ⟨earlier, now, later, _, opened, he, hw, List.prefix_rfl, ?_⟩
    exact fun n hn ha => he.live_mem List.prefix_rfl hn ha

/-- A server on whose only session a span of ten instants is asked for. -/
def spanStart : Shared Device.ScriptedModule :=
  { Shared.ofModules .empty with
    sessions := ⟨[⟨⟨1⟩, ⟨"a", "operator", .empty⟩, .active, none⟩], [("a", ⟨0⟩)], [(⟨1⟩, "a")]⟩
    sockets := [.fresh] }

def spanWindow : Event.Window := ⟨Event.defaultStream, some (.utc 0), some (.utc 10)⟩

def spanRequest : Protocol.Request := ⟨"a", none, "create-subscription", none, .null⟩

/-- The state in which the request's delivery waits for the answer. -/
def spanMade : Shared Device.ScriptedModule :=
  (Dispatch.step .calm closeConnection ⟨0⟩ ⟨0⟩ spanRequest (.subscribe spanWindow) spanStart).state

/-- An event is published and delivered in time, another one is published while nobody looks at the
clock until the span is over, and a third one behind that. -/
def overtakenOccasions : List Occasion :=
  [.answered .opened] ++ (List.replicate 8 (.moves 3)) ++ [.published (.at 4 "first" .null)] ++
    List.replicate 4 (.moves 5) ++ [.published (.at 6 "second" .null)] ++
    List.replicate 4 (.moves 12) ++ [.published (.at 7 "third" .null)] ++ [.moves 13]

/-- What is written of the three events is the first alone. -/
lemma written_overtaken : written (beats ⟨0⟩ ⟨0⟩ spanMade overtakenOccasions) =
    [.replayComplete 3, .live (.at 4 "first" .null), .complete 12] :=
  rfl

theorem written_before_complete_overtaken :
    (Dispatch.step .calm closeConnection ⟨0⟩ ⟨0⟩ spanRequest (.subscribe spanWindow)
      spanStart).value = .attach ⟨0⟩ ∧
    spanStart.modules.bus.nextId ∉ spanStart.modules.bus.numbers ∧
    Note.complete 12 ∈ written (beats ⟨0⟩ ⟨0⟩ spanMade overtakenOccasions) ∧
    ∃ d, spanMade.delivery? ⟨0⟩ = some d ∧ d.socket = ⟨0⟩ ∧ d.window = spanWindow ∧
      d.replay = [] ∧
      ∃ earlier now later before opened,
        Expires ⟨0⟩ d spanMade overtakenOccasions earlier now later ∧
        written (beats ⟨0⟩ ⟨0⟩ spanMade overtakenOccasions) = before ++ [.complete 12] ∧
        d.opening opened ++ d.live (taken (beats ⟨0⟩ ⟨0⟩ spanMade earlier)) <+: before ∧
        ∀ n ∈ publications overtakenOccasions, spanWindow.admits n → Note.live n ∈ before ∨
          n ∈ (along ⟨0⟩ ⟨0⟩ spanMade earlier).modules.bus.pending d.subscriber ∨
            n ∈ publications later := by
  have hstep : (Dispatch.step .calm closeConnection ⟨0⟩ ⟨0⟩ spanRequest (.subscribe spanWindow)
      spanStart).value = .attach ⟨0⟩ := rfl
  have hnumber : spanStart.modules.bus.nextId ∉ spanStart.modules.bus.numbers := by decide
  have hlast : Note.complete 12 ∈ written (beats ⟨0⟩ ⟨0⟩ spanMade overtakenOccasions) := by
    rw [written_overtaken]
    simp
  exact ⟨hstep, hnumber, hlast, written_before_complete .calm closeConnection ⟨0⟩ ⟨0⟩ spanRequest
    spanWindow spanStart spanMade ⟨0⟩ hstep rfl hnumber (by decide) overtakenOccasions 12 hlast⟩

/-- Nothing is cancelled, no write fails, and all three events lie in the span, but what is still in
the channel when the clock is read behind its end, or comes later, is not written. -/
theorem overtaken_events_are_missing :
    (overtakenOccasions.all fun
      | .cancelled | .faulted _ => false
      | _ => true) ∧
    (publications overtakenOccasions).map (·.event) = ["first", "second", "third"] ∧
    (publications overtakenOccasions).all spanWindow.admits ∧
    (written (beats ⟨0⟩ ⟨0⟩ spanMade overtakenOccasions)).map (·.event.event) =
      ["replay-complete", "first", "notification-complete"] ∧
    ¬ ∀ n ∈ publications overtakenOccasions,
      Note.live n ∈ written (beats ⟨0⟩ ⟨0⟩ spanMade overtakenOccasions) := by
  refine ⟨by decide, by decide +kernel, by decide +kernel, by rw [written_overtaken]; rfl, ?_⟩
  intro hall
  have hthird : Notification.at 7 "third" .null ∈ publications overtakenOccasions := by
    simp [publications, overtakenOccasions, Occasion.published?]
  have hlive := hall _ hthird
  rw [written_overtaken] at hlive
  simp [Notification.at] at hlive

end ManagementServer.Server.Shared
