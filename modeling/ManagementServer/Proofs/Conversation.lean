import ManagementServer.Device.Scripted
import ManagementServer.Proofs.Answers
import ManagementServer.Proofs.Validity
import Mathlib.Data.List.Induction

/-!
# The conversation over a connection

What a loop takes in along a run, and what it answers: one message for each line, in the order of
the lines (`Running.talks_after`). A request is executed only for the session that was found
registered and active under its id (`Running.admitted_after`).
-/

namespace ManagementServer.Server

variable {μ : Type}

/-- What a loop has taken in when it goes from one phase to another. -/
def Phase.intake? : Phase → Phase → Option Intake
  | .reading, .received line => some (.line line)
  | .reading, .lastWord _ => some .tooLong
  | _, _ => none

namespace Running

/-- What a loop has taken in between two states. -/
def intake? (i : Nat) (s s' : Running μ) : Option Intake :=
  match s.loops[i]?, s'.loops[i]? with
  | some l, some l' => l.phase.intake? l'.phase
  | _, _ => none

/-- Whether a turn does not have a loop write in vain. -/
def isUndisturbed (i : Nat) (s : Running μ) : Turn μ → Bool
  | .move _ (.loop index _) =>
    index != i || s.loops[i]?.all fun l =>
      !l.phase.isWriting || (s.shared.socket l.socket).writeFault?.isNone
  | _ => true

variable [Device.DeviceModule μ]

/-- What a loop takes in during a run. -/
def intakes (i : Nat) (s : Running μ) : List (Turn μ) → List Intake
  | [] => []
  | t :: rest => (intake? i s (Turn.act s t)).toList ++ intakes i (Turn.act s t) rest

/-- Whether a loop never writes in vain. -/
def undisturbed (i : Nat) (s : Running μ) : List (Turn μ) → Bool
  | [] => true
  | t :: rest => isUndisturbed i s t && undisturbed i (Turn.act s t) rest

lemma intakes_append (i : Nat) (s : Running μ) (turns rest : List (Turn μ)) :
    intakes i s (turns ++ rest) = intakes i s turns ++ intakes i (s.after turns) rest := by
  induction turns generalizing s with
  | nil => rfl
  | cons t turns ih =>
    simp only [List.cons_append, intakes, ih, after_cons, List.append_assoc]

lemma undisturbed_append (i : Nat) (s : Running μ) (turns rest : List (Turn μ)) :
    undisturbed i s (turns ++ rest) =
      (undisturbed i s turns && undisturbed i (s.after turns) rest) := by
  induction turns generalizing s with
  | nil => rfl
  | cons t turns ih =>
    simp only [List.cons_append, undisturbed, ih, after_cons, Bool.and_assoc]

end Running

/-! ## One answer for each line -/

/-- A loop has answered all that it has taken in, or all but the last, at which it is at work. -/
structure Loop.Converses (l : Loop) (s : Shared μ) (intakes : List Intake) : Prop where
  idle : l.phase.isBusy = false → Transcript intakes (s.answers l.socket) ∧
    l.own.isSome = (s.answers l.socket).any (·.isRegistered)
  busy : l.phase.isBusy = true → ∃ earlier intake, intakes = earlier ++ [intake] ∧
    Transcript earlier (s.answers l.socket) ∧
    WorksOn s.sessions ((s.answers l.socket).any (·.isRegistered)) intake l.own l.phase

lemma Loop.Converses.ages {l : Loop} {s s' : Shared μ} {intakes : List Intake}
    (h : l.Converses s intakes) (ha : s.sessions.Ages s'.sessions)
    (hs : s'.answers l.socket = s.answers l.socket) : l.Converses s' intakes := by
  refine ⟨?_, ?_⟩
  · rw [hs]
    exact h.idle
  · rw [hs]
    intro hb
    obtain ⟨earlier, intake, he, ht, hw⟩ := h.busy hb
    exact ⟨earlier, intake, he, ht, hw.ages ha⟩

lemma Loop.Converses.of_busy {l : Loop} {s : Shared μ} {earlier : List Intake} {intake : Intake}
    (ht : Transcript earlier (s.answers l.socket))
    (hw : WorksOn s.sessions ((s.answers l.socket).any (·.isRegistered)) intake l.own l.phase) :
    l.Converses s (earlier ++ [intake]) := by
  refine ⟨?_, fun _ => ⟨earlier, intake, rfl, ht, hw⟩⟩
  intro hb
  rw [hw.isBusy] at hb
  cases hb

lemma Loop.Converses.of_idle {l : Loop} {s : Shared μ} {intakes : List Intake}
    (hb : l.phase.isBusy = false) (ht : Transcript intakes (s.answers l.socket))
    (ho : l.own.isSome = (s.answers l.socket).any (·.isRegistered)) : l.Converses s intakes := by
  refine ⟨fun _ => ⟨ht, ho⟩, ?_⟩
  intro hc
  rw [hb] at hc
  cases hc

lemma Loop.converses_afterReading (l : Loop) {s : Shared μ} {intakes : List Intake}
    (ht : Transcript intakes (s.answers l.socket))
    (ho : l.own.isSome = (s.answers l.socket).any (·.isRegistered)) (reader : Connection.LineReader)
    {phase : Phase} (hn : AfterReading phase) :
    Loop.Converses { l with reader, phase } s
      (intakes ++ (Phase.intake? .reading phase).toList) := by
  have hidle : phase.isBusy = false →
      Loop.Converses { l with reader, phase } s (intakes ++ []) := by
    intro hb
    rw [List.append_nil]
    exact .of_idle hb ht ho
  rcases hn with rfl | ⟨line, rfl⟩ | rfl | ⟨reason, rfl⟩ | ⟨bytes, limit, rfl⟩
  · exact hidle rfl
  · exact .of_busy ht (.received rfl ho)
  · exact hidle rfl
  · exact hidle rfl
  · exact .of_busy ht (.lastWord rfl ho)

/-- The conversation goes on with every step of its loop. -/
lemma Loop.Converses.step [Device.DeviceModule μ] {l : Loop} {s : Shared μ} {intakes : List Intake}
    (h : l.Converses s intakes) (hk : l.socket.number < s.sockets.length)
    (hw : l.phase.isWriting → (s.socket l.socket).writeFault? = none) (env : Environment)
    (size : Nat) (hsocket : (l.step env size s).value.socket = l.socket) :
    (l.step env size s).value.Converses (l.step env size s).state
      (intakes ++ (l.phase.intake? (l.step env size s).value.phase).toList) := by
  by_cases hb : l.phase.isBusy
  · obtain ⟨earlier, intake, rfl, ht, hwork⟩ := h.busy hb
    have hnone : l.phase.intake? (l.step env size s).value.phase = none := by
      cases hp : l.phase <;> simp_all [Phase.isBusy, Phase.intake?]
    rw [hnone, Option.toList_none, List.append_nil]
    rcases hwork.step hw hk env size with hgo | ⟨answer, hend⟩
    · apply Loop.Converses.of_busy
      · rw [hsocket, hgo.answers]
        exact ht
      · rw [hsocket, hgo.answers]
        exact hgo.works
    · apply Loop.Converses.of_idle hend.idle
      · rw [hsocket, hend.written]
        exact ht.snoc hend.answers
      · rw [hsocket, hend.written, hend.own, List.any_append]
        simp
  · have hb : l.phase.isBusy = false := by simpa using hb
    obtain ⟨ht, ho⟩ := h.idle hb
    have hnw : l.phase.isWriting = false := by
      cases hp : l.phase <;> simp_all [Phase.isBusy, Phase.isWriting]
    have ha := Loop.answers_step env size s hnw l.socket
    rw [← ha] at ht ho
    by_cases hr : l.phase = .reading
    · obtain ⟨reader, phase, hv, hn⟩ := yields_reading env size hr s
      rw [hr, hv]
      exact l.converses_afterReading ht ho reader hn
    · obtain ⟨hb', hown⟩ := Loop.idle_step env size s hb hr
      have hnone : l.phase.intake? (l.step env size s).value.phase = none := by
        cases hp : l.phase <;> simp_all [Phase.intake?]
      rw [hnone, Option.toList_none, List.append_nil]
      apply Loop.Converses.of_idle hb'
      · rw [hsocket]
        exact ht
      · rw [hsocket, hown]
        exact ho

/-! ## Along a run -/

namespace Running

variable {s s' : Running μ} {i : Nat} {intakes : List Intake}

/-- What a loop has taken in and answered so far; nobody has answered over a socket that nobody has
accepted. -/
structure Talks (s : Running μ) (i : Nat) (intakes : List Intake) : Prop where
  backlog : ∀ socket ∈ s.backlog, s.shared.answers socket = []
  unborn : s.loops[i]? = none → intakes = []
  converses : ∀ l : Loop, s.loops[i]? = some l → l.Converses s.shared intakes

lemma IsNew.talks (h : s.IsNew) (i : Nat) : s.Talks i [] := by
  refine ⟨?_, fun _ => rfl, ?_⟩
  · simp [h.backlog]
  · simp [h.loops]

lemma intake?_of_same (h : s'.loops[i]? = s.loops[i]?) : intake? i s s' = none := by
  unfold intake?
  rw [h]
  cases s.loops[i]? with
  | none => rfl
  | some l => cases hp : l.phase <;> simp [hp, Phase.intake?]

lemma intake?_of_unborn (h : s.loops[i]? = none) : intake? i s s' = none := by
  unfold intake?
  rw [h]

lemma Talks.same (h : s.Talks i intakes) (hl : s'.loops[i]? = s.loops[i]?)
    (hb : ∀ socket ∈ s'.backlog, s'.shared.answers socket = [])
    (ha : s.shared.sessions.Ages s'.shared.sessions)
    (hs : ∀ l : Loop, s.loops[i]? = some l →
      s'.shared.answers l.socket = s.shared.answers l.socket) :
    s'.Talks i (intakes ++ (intake? i s s').toList) := by
  rw [intake?_of_same hl, Option.toList_none, List.append_nil]
  refine ⟨hb, ?_, ?_⟩
  · rw [hl]
    exact h.unborn
  · rw [hl]
    exact fun l hi => (h.converses l hi).ages ha (hs l hi)

lemma converses_start {shared : Shared μ} {socket : SocketId} (h : shared.answers socket = []) :
    (Loop.start socket).Converses shared [] := by
  refine ⟨fun _ => ?_, fun hb => nomatch hb⟩
  change Transcript [] (shared.answers socket) ∧ false = (shared.answers socket).any _
  rw [h]
  exact ⟨.nil, rfl⟩

/-- A loop that starts over a socket on which nobody has answered. -/
lemma Talks.starts (h : s.Talks i intakes) {socket : SocketId}
    (hl : s'.loops = s.loops ++ [.start socket])
    (hb : ∀ socket ∈ s'.backlog, s'.shared.answers socket = [])
    (ha : s.shared.sessions.Ages s'.shared.sessions)
    (hs : ∀ id, s'.shared.answers id = s.shared.answers id)
    (hn : s.shared.answers socket = []) : s'.Talks i (intakes ++ (intake? i s s').toList) := by
  by_cases hi : i < s.loops.length
  · refine h.same ?_ hb ha fun l _ => hs l.socket
    rw [hl, List.getElem?_append_left hi]
  · have hnone : s.loops[i]? = none := List.getElem?_eq_none (by omega)
    rw [intake?_of_unborn hnone, Option.toList_none, List.append_nil, h.unborn hnone]
    refine ⟨hb, fun _ => rfl, ?_⟩
    intro l hli
    rw [hl] at hli
    rcases Valid.getElem?_concat hli with hc | rfl
    · rw [hnone] at hc
      cases hc
    · exact converses_start ((hs socket).trans hn)

lemma answers_fresh (shared : Shared μ) (id : SocketId) :
    Shared.answers { shared with sockets := shared.sockets ++ [.fresh] } id =
      shared.answers id := by
  have hs : Shared.socket id { shared with sockets := shared.sockets ++ [.fresh] } =
      shared.socket id := by
    unfold Shared.socket
    by_cases hlt : id.number < shared.sockets.length
    · simp only [List.getElem?_append_left hlt]
    · have hle : shared.sockets.length ≤ id.number := by omega
      simp only [List.getElem?_append_right hle, List.getElem?_eq_none hle]
      cases id.number - shared.sockets.length <;> rfl
  rw [Shared.answers, Shared.answers, hs]

lemma answers_of_unmade {shared : Shared μ} {id : SocketId}
    (h : id.number = shared.sockets.length) : shared.answers id = [] := by
  rw [Shared.answers, Shared.socket, List.getElem?_eq_none (by omega)]
  rfl

lemma Valid.socket_ne (h : s.Valid) {j : Nat} {l m : Loop} (hi : s.loops[i]? = some l)
    (hj : s.loops[j]? = some m) (hne : i ≠ j) : l.socket ≠ m.socket := by
  intro he
  have hn := List.nodup_iff_getElem?_ne_getElem?.mp (List.nodup_append.mp h.sockets).1
  have hlen : (s.loops.map (·.socket)).length = s.loops.length := List.length_map _
  have hli := (List.getElem?_eq_some_iff.mp hi).1
  have hlj := (List.getElem?_eq_some_iff.mp hj).1
  rcases Nat.lt_or_gt_of_ne hne with hlt | hlt
  · exact hn i j hlt (hlen ▸ hlj) (by simp [hi, hj, he])
  · exact hn j i hlt (hlen ▸ hli) (by simp [hi, hj, he])

lemma leaving_of_tooLong (h : intake? i s s' = some .tooLong) :
    ∃ l : Loop, s'.loops[i]? = some l ∧ l.phase.isLeaving = true := by
  unfold intake? at h
  split at h
  · rename_i l l' hl hl'
    refine ⟨l', hl', ?_⟩
    unfold Phase.intake? at h
    split at h
    · cases h
    · rename_i hp
      rw [hp]
      rfl
    · cases h
  · cases h

/-- A loop looks for the session of a request and finds its own, registered under the id that the
request names. -/
structure Finds (s : Running μ) (i : Nat) (request : Protocol.Request) (session : Session.Ref) :
    Prop where
  loop : ∃ l : Loop, s.loops[i]? = some l ∧ l.phase = .finding request ∧ l.own = some session
  registered : s.shared.sessions.getById (Loop.sessionIdOf request) = .ok session

lemma Finds.lt (hv : s.Valid) {request : Protocol.Request} {session : Session.Ref}
    (h : s.Finds i request session) : session.number < s.shared.sessions.records.length := by
  have hr := h.registered
  unfold Session.Registry.getById at hr
  split at hr
  · rename_i found hf
    obtain rfl := Except.ok.inj hr
    exact (hv.sound.sessions.recorded _ _ (hv.sound.sessions.lookup_iff.mp hf)).1
  · cases hr

variable [Device.DeviceModule μ]

/-- A loop that takes a step of its own goes on with its conversation, and disturbs no other. -/
lemma Talks.stepped (h : s.Talks i intakes) (hv : s.Valid) {env : Environment} {index size : Nat}
    {l : Loop} (hi : s.loops[index]? = some l)
    (hl : s'.loops = s.loops.set index (l.step env size s.shared).value)
    (hb : s'.backlog = s.backlog) (hs : s'.shared = (l.step env size s.shared).state)
    (hw : index = i → l.phase.isWriting → (s.shared.socket l.socket).writeFault? = none) :
    s'.Talks i (intakes ++ (intake? i s s').toList) := by
  have hmem : l.socket ∈ s.loops.map (·.socket) :=
    List.mem_map.mpr ⟨l, List.mem_of_getElem? hi, rfl⟩
  have hbacklog : ∀ socket ∈ s'.backlog, s'.shared.answers socket = [] := by
    rw [hb, hs]
    intro socket hm
    have hne : l.socket ≠ socket := (List.nodup_append.mp hv.sockets).2.2 _ hmem _ hm
    rw [Loop.answers_step_of_ne env size s.shared hne]
    exact h.backlog socket hm
  by_cases hindex : index = i
  · subst hindex
    have hself : s'.loops[index]? = some (l.step env size s.shared).value := by
      rw [hl, List.getElem?_set_self (List.getElem?_eq_some_iff.mp hi).1]
    have hintake : intake? index s s' =
        l.phase.intake? (l.step env size s.shared).value.phase := by
      unfold intake?
      rw [hi, hself]
    rw [hintake]
    refine ⟨hbacklog, ?_, ?_⟩
    · rw [hself]
      exact fun hc => nomatch hc
    · rw [hself, hs]
      intro l' hl'
      obtain rfl := Option.some.inj hl'
      exact (h.converses l hi).step (hv.inRange _ (List.mem_append_left _ hmem)) (hw rfl) env size
        (Loop.peer_step env size s.shared).1
  · refine h.same ?_ hbacklog (hs ▸ Loop.ages_step env size s.shared) ?_
    · rw [hl, List.getElem?_set_ne hindex]
    · intro m hm
      rw [hs]
      exact Loop.answers_step_of_ne env size s.shared (hv.socket_ne hi hm hindex)

lemma Talks.turn (h : s.Talks i intakes) (hv : s.Valid) (t : Turn μ)
    (hu : isUndisturbed i s t = true) :
    (Turn.act s t).Talks i (intakes ++ (intake? i s (Turn.act s t)).toList) := by
  rcases t.effect s with hs | ⟨socket, hn, hs, hw⟩ | ⟨socket, hb, hl, hs⟩ |
    ⟨env, index, size, l, ht, hi, hl, hb, hs⟩
  · refine h.same (by rw [hs.loops]) ?_ hs.shared.sessions.ages fun l _ => hs.shared.answers _
    intro socket hm
    rw [hs.shared.answers]
    exact h.backlog socket (hs.backlog.subset hm)
  · have ha : s.shared.sessions.Ages (Turn.act s t).shared.sessions := hs ▸ Std.Refl.refl _
    have hanswers : ∀ id, (Turn.act s t).shared.answers id = s.shared.answers id :=
      fun id => hs ▸ answers_fresh s.shared id
    rcases hw with ⟨hl, hb⟩ | ⟨hl, hb⟩
    · refine h.starts hl ?_ ha hanswers (answers_of_unmade hn)
      rw [hb]
      exact fun other hm => (hanswers other).trans (h.backlog other hm)
    · refine h.same (by rw [hl]) ?_ ha fun l _ => hanswers _
      rw [hb]
      intro other hm
      rcases List.mem_append.mp hm with hm | hm
      · exact (hanswers other).trans (h.backlog other hm)
      · rw [List.mem_singleton.mp hm]
        exact (hanswers socket).trans (answers_of_unmade hn)
  · have hanswers : ∀ id, (Turn.act s t).shared.answers id = s.shared.answers id :=
      fun id => by rw [hs]
    refine h.starts hl ?_ (hs ▸ Std.Refl.refl _) hanswers (h.backlog socket (by simp [hb]))
    intro other hm
    exact (hanswers other).trans (h.backlog other (by simp [hb, hm]))
  · refine h.stepped hv hi hl hb hs ?_
    rintro rfl hp
    rw [ht] at hu
    simpa [isUndisturbed, hi, hp] using hu

lemma talks_after (h : s.IsNew) (i : Nat) (turns : List (Turn μ))
    (hu : undisturbed i s turns = true) : (s.after turns).Talks i (Running.intakes i s turns) := by
  induction turns using List.reverseRecOn with
  | nil => exact h.talks i
  | append_singleton turns t ih =>
    rw [undisturbed_append, Bool.and_eq_true] at hu
    have hturn : isUndisturbed i (s.after turns) t = true := by
      simpa [undisturbed] using hu.2
    rw [after_append, intakes_append]
    simpa [Running.intakes] using (ih hu.1).turn (h.valid.after turns) t hturn

/-! ## The end of a conversation -/

/-- A loop that takes leave reads nothing more. -/
lemma leaving_turn {l : Loop} (hi : s.loops[i]? = some l) (hp : l.phase.isLeaving = true)
    (t : Turn μ) : intake? i s (Turn.act s t) = none ∧
      ∃ l' : Loop, (Turn.act s t).loops[i]? = some l' ∧ l'.phase.isLeaving = true := by
  have hlt : i < s.loops.length := (List.getElem?_eq_some_iff.mp hi).1
  have hsame : (Turn.act s t).loops[i]? = s.loops[i]? → intake? i s (Turn.act s t) = none ∧
      ∃ l' : Loop, (Turn.act s t).loops[i]? = some l' ∧ l'.phase.isLeaving = true :=
    fun he => ⟨intake?_of_same he, l, he.trans hi, hp⟩
  rcases t.effect s with hs | ⟨socket, -, -, hw⟩ | ⟨socket, -, hl, -⟩ |
    ⟨env, index, size, m, -, hm, hl, -, -⟩
  · exact hsame (by rw [hs.loops])
  · rcases hw with ⟨hl, -⟩ | ⟨hl, -⟩
    · exact hsame (by rw [hl, List.getElem?_append_left hlt])
    · exact hsame (by rw [hl])
  · exact hsame (by rw [hl, List.getElem?_append_left hlt])
  · by_cases hindex : index = i
    · subst hindex
      obtain rfl := Option.some.inj (hi.symm.trans hm)
      have hself : (Turn.act s t).loops[index]? = some (l.step env size s.shared).value := by
        rw [hl, List.getElem?_set_self hlt]
      refine ⟨?_, _, hself, Loop.isLeaving_step env size s.shared hp⟩
      unfold intake?
      rw [hi, hself]
      cases hq : l.phase <;> simp_all [Phase.isLeaving, Phase.intake?]
    · exact hsame (by rw [hl, List.getElem?_set_ne hindex])

lemma intakes_of_leaving {l : Loop} (hi : s.loops[i]? = some l) (hp : l.phase.isLeaving = true)
    (turns : List (Turn μ)) : Running.intakes i s turns = [] := by
  induction turns generalizing s l with
  | nil => rfl
  | cons t rest ih =>
    obtain ⟨hnone, l', hi', hp'⟩ := leaving_turn hi hp t
    rw [Running.intakes, hnone, ih hi' hp']
    rfl

/-- A line that is too long is the last thing that a loop takes in. -/
lemma tooLong_last (turns : List (Turn μ)) {earlier later : List Intake}
    (h : Running.intakes i s turns = earlier ++ .tooLong :: later) : later = [] := by
  induction turns generalizing s earlier with
  | nil => simp [Running.intakes] at h
  | cons t rest ih =>
    rw [Running.intakes] at h
    cases ht : intake? i s (Turn.act s t) with
    | none =>
      rw [ht] at h
      exact ih h
    | some intake =>
      rw [ht, Option.toList_some, List.singleton_append] at h
      cases earlier with
      | nil =>
        obtain ⟨rfl, hrest⟩ := List.cons.inj h
        obtain ⟨l, hi, hp⟩ := leaving_of_tooLong ht
        rw [← hrest, intakes_of_leaving hi hp]
      | cons _ earlier => exact ih (List.cons.inj h).2

/-! ## Requests that are executed -/

/-- A loop was at its lookup of a session earlier in a run, and found the session active if it has
gone beyond the check of that. -/
def Admitted (s : Running μ) (i : Nat) (turns : List (Turn μ)) : Prop :=
  ∀ (l : Loop) (request : Protocol.Request) (session : Session.Ref),
    (s.after turns).loops[i]? = some l → l.phase.request? = some (request, session) →
      ∃ before rest, turns = before ++ rest ∧ (s.after before).Finds i request session ∧
        (s.after before).shared.sessions.Ages (s.after turns).shared.sessions ∧
        ((∃ stage, l.phase = .dispatching request session stage) →
          ((s.after before).shared.sessions.record session).status = .active)

lemma status_of_rank_le {status status' : SessionStatus} (h : status.rank ≤ status'.rank)
    (ha : status' = .active) : status = .active := by
  subst ha
  cases status with
  | active => rfl
  | terminating => exact absurd h (by decide)
  | closed => exact absurd h (by decide)

lemma Admitted.same {turns : List (Turn μ)} (h : s.Admitted i turns) (t : Turn μ)
    (hl : ∀ (l : Loop) (request : Protocol.Request × Session.Ref),
      (s.after (turns ++ [t])).loops[i]? = some l → l.phase.request? = some request →
        (s.after turns).loops[i]? = some l) : s.Admitted i (turns ++ [t]) := by
  intro l request session hi hp
  obtain ⟨before, rest, he, hfinds, hages, hactive⟩ := h l request session (hl l _ hi hp) hp
  refine ⟨before, rest ++ [t], ?_, hfinds, ?_, hactive⟩
  · rw [he, List.append_assoc]
  · rw [after_append]
    exact IsTrans.trans _ _ _ hages (t.ages (s.after turns))

lemma admitted_stepped (h : s.IsNew) {turns : List (Turn μ)} (ha : s.Admitted i turns) (t : Turn μ)
    {env : Environment} {size : Nat} {m : Loop} (hm : (s.after turns).loops[i]? = some m)
    (hl : (s.after (turns ++ [t])).loops[i]? =
      some (m.step env size (s.after turns).shared).value) : s.Admitted i (turns ++ [t]) := by
  intro l request session hi hp
  rw [hl] at hi
  obtain rfl := Option.some.inj hi
  have hages : (s.after turns).shared.sessions.Ages (s.after (turns ++ [t])).shared.sessions := by
    rw [after_append]
    exact t.ages (s.after turns)
  rcases Loop.request?_step env size _ hp with ⟨hf, hown, hget, hc⟩ | ⟨hc, hactive⟩ |
    ⟨stage, hd⟩
  · refine ⟨turns, [t], rfl, ⟨⟨m, hm, hf, hown⟩, hget⟩, hages, ?_⟩
    rintro ⟨stage, hd⟩
    rw [hc] at hd
    cases hd
  · obtain ⟨before, rest, he, hfinds, hbefore, -⟩ := ha m request session hm (by rw [hc]; rfl)
    refine ⟨before, rest ++ [t], by rw [he, List.append_assoc], hfinds,
      IsTrans.trans _ _ _ hbefore hages, fun _ => ?_⟩
    exact status_of_rank_le (hbefore.status session (hfinds.lt (h.valid.after before))) hactive
  · obtain ⟨before, rest, he, hfinds, hbefore, hactive⟩ :=
      ha m request session hm (by rw [hd]; rfl)
    exact ⟨before, rest ++ [t], by rw [he, List.append_assoc], hfinds,
      IsTrans.trans _ _ _ hbefore hages, fun _ => hactive ⟨stage, hd⟩⟩

lemma admitted_after (h : s.IsNew) (i : Nat) (turns : List (Turn μ)) : s.Admitted i turns := by
  induction turns using List.reverseRecOn with
  | nil =>
    intro l request session hi
    simp [h.loops] at hi
  | append_singleton turns t ih =>
    have hact : s.after (turns ++ [t]) = Turn.act (s.after turns) t := by
      rw [after_append]
      rfl
    have hstart : ∀ socket, (Turn.act (s.after turns) t).loops =
        (s.after turns).loops ++ [.start socket] → s.Admitted i (turns ++ [t]) := by
      intro socket hl
      refine ih.same t fun l request hi hp => ?_
      rw [hact, hl] at hi
      rcases Valid.getElem?_concat hi with hi | rfl
      · exact hi
      · cases hp
    rcases t.effect (s.after turns) with hs | ⟨socket, -, -, hw⟩ | ⟨socket, -, hl, -⟩ |
      ⟨env, index, size, m, -, hm, hl, -, -⟩
    · exact ih.same t fun l _ hi _ => by rwa [hact, hs.loops] at hi
    · rcases hw with ⟨hl, -⟩ | ⟨hl, -⟩
      · exact hstart socket hl
      · exact ih.same t fun l _ hi _ => by rwa [hact, hl] at hi
    · exact hstart socket hl
    · by_cases hindex : index = i
      · subst hindex
        have hlt := (List.getElem?_eq_some_iff.mp hm).1
        have hself : (s.after (turns ++ [t])).loops[index]? =
            some (m.step env size (s.after turns).shared).value := by
          rw [hact, hl, List.getElem?_set_self hlt]
        exact admitted_stepped h ih t hm hself
      · refine ih.same t fun l _ hi _ => ?_
        rwa [hact, hl, List.getElem?_set_ne hindex] at hi

/-! ## The whole -/

/-- How a loop has conversed with its peer in the course of a run. -/
structure Conversation (s : Running μ) (i : Nat) (turns : List (Turn μ)) : Prop where
  answered : undisturbed i s turns = true → ∀ l : Loop, (s.after turns).loops[i]? = some l →
    (l.phase.isBusy = false →
      Transcript (Running.intakes i s turns) ((s.after turns).shared.answers l.socket)) ∧
    (l.phase.isBusy = true → ∃ earlier intake,
      Running.intakes i s turns = earlier ++ [intake] ∧
        Transcript earlier ((s.after turns).shared.answers l.socket))
  left : ∀ before rest, turns = before ++ rest → ∀ l : Loop,
    (s.after before).loops[i]? = some l → l.phase.isLeaving = true →
      Running.intakes i (s.after before) rest = []
  oversized : ∀ earlier later, Running.intakes i s turns = earlier ++ .tooLong :: later → later = []
  admitted : ∀ (l : Loop) (request : Protocol.Request) (session : Session.Ref)
    (stage : Dispatch.Stage), (s.after turns).loops[i]? = some l →
      l.phase = .dispatching request session stage →
        ∃ before rest, turns = before ++ rest ∧ (s.after before).Finds i request session ∧
          ((s.after before).shared.sessions.record session).status = .active
  refused : ∀ l : Loop, (s.after turns).loops[i]? = some l → l.Checks (s.after turns).shared

end Running

/-- Every loop answers each line once and in order, while it can write, and executes a request only
for its own session, found registered under the id of the request and active. -/
theorem conversation_after [Device.DeviceModule μ] (s : Running μ) (h : s.IsNew) (i : Nat)
    (turns : List (Turn μ)) : s.Conversation i turns := by
  refine ⟨?_, ?_, fun _ _ => Running.tooLong_last turns, ?_, fun l _ => l.checks _⟩
  · intro hu l hi
    have hc := (Running.talks_after h i turns hu).converses l hi
    refine ⟨fun hb => (hc.idle hb).1, fun hb => ?_⟩
    obtain ⟨earlier, intake, he, ht, -⟩ := hc.busy hb
    exact ⟨earlier, intake, he, ht⟩
  · rintro before rest rfl l hi hp
    exact Running.intakes_of_leaving hi hp rest
  · intro l request session stage hi hp
    obtain ⟨before, rest, he, hfinds, -, hactive⟩ :=
      Running.admitted_after h i turns l request session hi (by rw [hp]; rfl)
    exact ⟨before, rest, he, hfinds, hactive ⟨stage, hp⟩⟩

/-- A peer sends a line that is no message, a hello, a request under an id that is not its own, and
one that closes its session, behind which nobody reads its question. -/
def farewellTurns : List (Turn Device.ScriptedModule) :=
  let request (id operation : String) : Protocol.AgentMessage :=
    .rpc ⟨id, some "1", operation, none, .null⟩
  [.connect, .move .calm (.send ⟨0⟩ [0x7B, 0x0A]), .send 0 (.hello ⟨"a", "operator", .empty⟩),
    .send 0 (request "b" "get"), .send 0 (request " a" "close-session"), .send 0 .getCapabilities] ++
    Turn.steps 0 50

theorem conversation_after_farewell :
    let start : Running Device.ScriptedModule := .ofHost default
    let now := start.after farewellTurns
    start.IsNew ∧ start.Conversation 0 farewellTurns ∧
      start.undisturbed 0 farewellTurns = true ∧
      (start.intakes 0 farewellTurns).length = 4 ∧
      (now.shared.answers ⟨0⟩).map (fun m => (m.isRegistered, m.isError)) =
        [(false, true), (true, false), (false, true), (false, false)] ∧
      now.loops.map (·.isEnded) = [true] :=
  ⟨Running.isNew_ofHost default, conversation_after _ (Running.isNew_ofHost default) 0 farewellTurns,
    by decide +kernel, by decide +kernel, by decide +kernel, by decide +kernel⟩

end ManagementServer.Server
