import ManagementServer.Proofs.Carriage
import ManagementServer.Proofs.ServerReports
import ManagementServer.Proofs.Stopping

/-!
# What is reported of a session

Whoever takes a session out of the registry, its opening is reported once and before anything else.
Its closing is reported once if its own loop has taken it out, and never if another session has
killed it or the server was stopped. What loops still owe (`Running.owed`) makes up for what has not
been reported yet, and is nothing behind the end of the session's connection: `reporting_after`.
-/

namespace ManagementServer.Server

variable {μ : Type}

/-- How a session has left the registry: its own loop has taken it out, for a reason, or another
session has killed it, or the server was stopped. -/
inductive Departure where
  | teardown (reason : ExitReason)
  | kill
  | drain
  deriving DecidableEq, Repr

/-- What is reported of a departure. -/
def Departure.notices (session : Session.Ref) : Departure → List Notice
  | .teardown reason => [.closed session reason]
  | .kill | .drain => []

namespace Phase

/-- The notice that a loop in the phase still owes. -/
def owed? : Phase → Option Notice
  | .opened session => some (.opened session)
  | .closing reason session _ | .reportClosed reason session => some (.closed session reason)
  | _ => none

/-- The notice about a session that a loop in the phase still owes. -/
def owedTo? (session : Session.Ref) (phase : Phase) : Option Notice :=
  phase.owed?.filter (·.session = session)

lemma owedTo?_of_none {phase : Phase} (h : phase.owed? = none) (session : Session.Ref) :
    phase.owedTo? session = none := by
  rw [owedTo?, h]
  rfl

lemma owedTo?_of_eq {phase : Phase} {n : Notice} (h : phase.owed? = some n)
    {session : Session.Ref} (he : n.session = session) : phase.owedTo? session = some n := by
  simp [owedTo?, h, he]

lemma owedTo?_of_ne {phase : Phase} {n : Notice} (h : phase.owed? = some n)
    {session : Session.Ref} (hn : n.session ≠ session) : phase.owedTo? session = none := by
  simp [owedTo?, h, hn]

/-- How a session leaves the registry that does so in a step from the phase. -/
def departure? : Phase → Option Departure
  | .removing reason => some (.teardown reason)
  | .dispatching _ _ (.killRemove _ _) => some .kill
  | _ => none

lemma owed?_of_notice? {phase : Phase} {n : Notice} (h : phase.notice? = some n) :
    phase.owed? = some n := by
  cases phase <;> simp_all [notice?, owed?]

lemma notice?_of_isPlain {phase : Phase} (h : phase.isPlain) : phase.notice? = none := by
  cases phase <;> simp_all [isPlain, isServing, notice?]

lemma owed?_of_isServing {phase : Phase} (h : phase.isServing)
    (hn : ∀ session, phase ≠ .opened session) : phase.owed? = none := by
  cases phase <;> simp_all [isServing, owed?]

lemma isLinked_of_owed? {phase : Phase} {n : Notice} (h : phase.owed? = some n) :
    phase.isLinked := by
  cases phase <;> simp_all [owed?, isLinked]

end Phase

/-! ## Loops -/

namespace Loop

/-- What the step of a loop means to the sessions and to what is reported of them: the loop
registers a session and owes its opening, it reports what it owes, it takes its session out and owes
its closing, or it owes what it owed, and the only one to take a session out then is a kill. -/
inductive Passage (l l' : Loop) (r r' : Session.Registry) : Prop
  | registers {session : Session.Ref} {record : Session.Record}
      (registers : r.Registers r' session record) (connection : record.connection = l.connection)
      (silent : l.phase.notice? = none) (unowed : l.phase.owed? = none)
      (owed : l'.phase.owed? = some (.opened session))
  | tells {n : Notice} (notice : l.phase.notice? = some n) (sessions : r' = r)
      (owed : l'.phase.owed? = none)
  | takes {reason : ExitReason} {own : Session.Ref} (phase : l.phase = .removing reason)
      (holds : l.own = some own) (mem : own ∈ r.list) (sessions : r' = (r.detachRef own).1)
      (owed : l'.phase.owed? = some (.closed own reason))
  | keeps (silent : l.phase.notice? = none) (owed : l'.phase.owed? = l.phase.owed?)
      (sessions : r.Narrows r')
      (leaves : ∀ session ∈ r.list, session ∉ r'.list → l.phase.departure? = some .kill)

variable [Device.DeviceModule μ] {l : Loop}

lemma passage_of_isPlain (env : Environment) (size : Nat) (s : Shared μ) (h : l.phase.isPlain) :
    Passage l (l.step env size s).value s.sessions (l.step env size s).state.sessions := by
  have hserves := serves_step env size s h
  have hnow := Phase.owed?_of_isServing hserves.serving hserves.settled
  have hbefore : l.phase.owed? = none := by
    refine Phase.owed?_of_isServing (Phase.isServing_of_isPlain h) fun session he => ?_
    rw [he] at h
    cases h
  refine .keeps (Phase.notice?_of_isPlain h) (hnow.trans hbefore.symm)
    (persists_of_isPlain env size s h).sessions fun session hm hgone => ?_
  by_cases ha : l.phase.isAttending
  · rw [Session.Registry.list, (attends_step env size s ha).byId] at hgone
    exact absurd hm hgone
  cases hp : l.phase with
  | dispatching request other stage =>
    cases stage with
    | killRemove target closed => rfl
    | _ => simp [hp, Phase.isAttending] at ha
  | _ => simp [hp, Phase.isAttending, Phase.isPlain] at ha h

/-- A step that leaves the sessions alone, from a phase to one in which the same is owed. -/
lemma passage_of_same {env : Environment} {size : Nat} {s : Shared μ} {phase : Phase}
    {x : Result (Shared μ) Loop} (hp : l.phase = phase) (he : l.step env size s = x)
    (hn : phase.notice? = none) (ho : x.value.phase.owed? = phase.owed?)
    (hs : x.state.sessions = s.sessions) :
    Passage l (l.step env size s).value s.sessions (l.step env size s).state.sessions := by
  subst hp
  rw [he, hs]
  exact .keeps hn ho (Std.Refl.refl s.sessions) fun session hm hgone => absurd hm hgone

lemma passage_removing (env : Environment) (size : Nat) {s : Shared μ} (hc : s.sessions.Coherent)
    {reason : ExitReason} (hp : l.phase = .removing reason) :
    Passage l (l.step env size s).value s.sessions (l.step env size s).state.sessions := by
  cases ho : l.own with
  | none => exact passage_of_same hp (step_removing_none hp ho) rfl rfl rfl
  | some own =>
    have hstep : l.step env size s = _ := step_removing hp ho
    by_cases hm : own ∈ s.sessions.list
    · rw [hstep, hc.detachRef_of_mem hm]
      exact .takes hp ho hm rfl rfl
    · rw [hc.detachRef_of_notMem hm] at hstep
      exact passage_of_same hp hstep rfl rfl rfl

lemma passage_closing (env : Environment) (size : Nat) (s : Shared μ) {reason : ExitReason}
    {session : Session.Ref} {rest : Closing} (hp : l.phase = .closing reason session rest) :
    Passage l (l.step env size s).value s.sessions (l.step env size s).state.sessions := by
  by_cases hd : rest = .done
  · subst hd
    obtain ⟨journal, he⟩ := step_closing_done env size s hp
    exact passage_of_same hp he rfl rfl rfl
  · obtain ⟨journal, he⟩ := step_closing env size s hp hd
    have hattends := Shared.attends_of_preserves
      (Closing.preserves_step (Shared.withstands_attends s) rest)
    rw [he]
    refine .keeps (by rw [hp]; rfl) (by rw [hp]; rfl) (Closing.keeps_step rest s).sessions
      fun other hm hgone => ?_
    rw [Session.Registry.list, hattends.byId] at hgone
    exact absurd hm hgone

lemma passage (env : Environment) (size : Nat) {s : Shared μ} (hc : s.sessions.Coherent) :
    Passage l (l.step env size s).value s.sessions (l.step env size s).state.sessions := by
  by_cases hplain : l.phase.isPlain
  · exact passage_of_isPlain env size s hplain
  cases hp : l.phase with
  | registering =>
    cases hf : env.socketFault with
    | none => exact passage_of_same hp (step_registering hp hf) rfl rfl rfl
    | some detail => exact passage_of_same hp (step_registering_fault hp hf) rfl rfl rfl
  | preparing =>
    refine passage_of_same hp (step_preparing hp) rfl ?_ rfl
    cases env.socketFault with
    | none => rfl
    | some detail => rfl
  | abandoning => exact passage_of_same hp (step_abandoning hp) rfl rfl rfl
  | dropping => exact passage_of_same hp (step_dropping hp) rfl rfl rfl
  | greeting hello =>
    rcases step_greeting env size s hp with ⟨error, he⟩ | ⟨session, sessions, journal, he, hr⟩
    · exact passage_of_same hp he rfl rfl rfl
    · rw [he]
      exact .registers hr rfl (by rw [hp]; rfl) (by rw [hp]; rfl) rfl
  | opened session =>
    rw [step_opened hp]
    exact .tells (n := .opened session) (by rw [hp]; rfl) rfl rfl
  | removing reason => exact passage_removing env size hc hp
  | closing reason session rest => exact passage_closing env size s hp
  | reportClosed reason session =>
    obtain ⟨journal, he⟩ := step_reportClosed env size s hp
    rw [he]
    exact .tells (n := .closed session reason) (by rw [hp]; rfl) rfl rfl
  | unregistering => exact passage_of_same hp (step_unregistering hp) rfl rfl rfl
  | releasing =>
    obtain ⟨deliveries, he⟩ := step_releasing env size s hp
    exact passage_of_same hp he rfl rfl rfl
  | ended => exact passage_of_same rfl (step_ended hp) (by rw [hp]; rfl) rfl rfl
  | _ => simp [hp, Phase.isPlain, Phase.isServing] at hplain

/-- A loop that owes something behind its step is not one that has just got its connection. -/
lemma connection_of_owed? (env : Environment) (size : Nat) (s : Shared μ) {n : Notice}
    (h : (l.step env size s).value.phase.owed? = some n) :
    (l.step env size s).value.connection = l.connection := by
  refine (peer_step env size s).2 fun hp => ?_
  cases hf : env.socketFault with
  | none =>
    rw [step_registering hp hf] at h
    cases h
  | some detail =>
    rw [step_registering_fault hp hf] at h
    cases h

end Loop

/-! ## Turns -/

namespace Running

/-- What the loops still owe about a session. -/
def owed (s : Running μ) (session : Session.Ref) : List Notice :=
  s.loops.filterMap (·.phase.owedTo? session)

/-- Whatever a loop owes is about a session of its own connection. -/
def OwesOwn (s : Running μ) : Prop :=
  ∀ (i : Nat) (l : Loop) (n : Notice), s.loops[i]? = some l → l.phase.owed? = some n →
    n.session.number < s.shared.sessions.records.length ∧
      (s.shared.sessions.record n.session).connection = l.connection

lemma filterMap_of_only {f : Loop → Option Notice} {loops : List Loop} {i : Nat} {l : Loop}
    (h : loops[i]? = some l) (hn : ∀ j m, loops[j]? = some m → j ≠ i → f m = none) :
    loops.filterMap f = (f l).toList := by
  induction loops generalizing i with
  | nil => simp at h
  | cons m rest ih =>
    cases i with
    | zero =>
      obtain rfl : m = l := by simpa using h
      have hrest : rest.filterMap f = [] := by
        refine List.filterMap_eq_nil_iff.mpr fun other ho => ?_
        obtain ⟨j, hj⟩ := List.mem_iff_getElem?.mp ho
        exact hn (j + 1) other hj (Nat.succ_ne_zero j)
      rw [List.filterMap_cons, hrest]
      cases f m <;> rfl
    | succ k =>
      have hm : f m = none := hn 0 m rfl (Nat.succ_ne_zero k).symm
      rw [List.filterMap_cons_none hm]
      exact ih h fun j other ho hj => hn (j + 1) other ho fun he => hj (Nat.succ.inj he)

lemma filterMap_set {f : Loop → Option Notice} {loops : List Loop} {i : Nat} {l l' : Loop}
    (h : loops[i]? = some l) (he : f l' = f l) :
    (loops.set i l').filterMap f = loops.filterMap f := by
  induction loops generalizing i with
  | nil => simp at h
  | cons m rest ih =>
    cases i with
    | zero =>
      obtain rfl : m = l := by simpa using h
      simp only [List.set_cons_zero, List.filterMap_cons, he]
    | succ k =>
      simp only [List.set_cons_succ, List.filterMap_cons, ih h]

/-- Only the loop of a session's connection owes anything about it. -/
lemma OwesOwn.only {s : Running μ} (h : s.OwesOwn) (hv : s.Valid) {i : Nat} {l : Loop}
    (hi : s.loops[i]? = some l) (hl : l.phase.isLinked) {session : Session.Ref}
    (hc : (s.shared.sessions.record session).connection = l.connection) (j : Nat) (m : Loop)
    (hj : s.loops[j]? = some m) (hji : j ≠ i) :
    m.phase.owedTo? session = none := by
  cases ho : m.phase.owed? with
  | none => exact Phase.owedTo?_of_none ho session
  | some n =>
    refine Phase.owedTo?_of_ne ho fun he => hji ?_
    have hm : m.connection = l.connection := by
      rw [← (h j m n hj ho).2, he, hc]
    have hpos := (hv.sound.numbers _ _ ((hv.fits i l hi).linked hl)).1
    exact hv.connections j i m l hj hi hm (hm ▸ hpos)

variable [Device.DeviceModule μ]

/-- The notices of turns that happen one after the other. -/
def notices (s : Running μ) : List (Turn μ) → List Notice
  | [] => []
  | t :: rest => (t.notice? s).toList ++ notices (Turn.act s t) rest

/-- What is reported in turns that happen one after the other. -/
def reports (s : Running μ) : List (Turn μ) → List HealthEvent
  | [] => []
  | t :: rest => t.reports s ++ reports (Turn.act s t) rest

end Running

namespace Turn

/-- How a session leaves the registry that does so in a turn. -/
def departure? (s : Running μ) : Turn μ → Option Departure
  | .move _ (.loop index _) => s.loops[index]?.bind (·.phase.departure?)
  | .move _ .stop => some .drain
  | _ => none

variable [Device.DeviceModule μ]

/-- How a session leaves the registry in a turn, if it does. -/
def parting? (s : Running μ) (session : Session.Ref) (t : Turn μ) : Option Departure :=
  if session ∈ s.shared.sessions.list ∧ session ∉ (act s t).shared.sessions.list then
    t.departure? s
  else none

lemma parting?_of_stays {s : Running μ} {session : Session.Ref} {t : Turn μ}
    (h : session ∈ s.shared.sessions.list → session ∈ (act s t).shared.sessions.list) :
    t.parting? s session = none :=
  if_neg fun hc => hc.2 (h hc.1)

/-- What a turn means to the sessions, and to what is reported of them. -/
structure Balances (t : Turn μ) (s s' : Running μ) : Prop where
  length : s.shared.sessions.records.length ≤ s'.shared.sessions.records.length
  older : ∀ session : Session.Ref, session.number < s.shared.sessions.records.length →
    (s'.shared.sessions.record session).connection =
        (s.shared.sessions.record session).connection ∧
      (session ∈ s'.shared.sessions.list → session ∈ s.shared.sessions.list)
  newer : ∀ session : Session.Ref, ¬session.number < s.shared.sessions.records.length →
    session.number < s'.shared.sessions.records.length →
      session ∈ s'.shared.sessions.list ∧ s'.owed session = [.opened session]
  known : ∀ n, t.notice? s = some n → n.session.number < s.shared.sessions.records.length
  departs : ∀ session ∈ s.shared.sessions.list, session ∉ s'.shared.sessions.list →
    t.departure? s ≠ none
  balanced : ∀ session : Session.Ref, session.number < s.shared.sessions.records.length →
    s.owed session ++ (t.parting? s session).elim [] (·.notices session) =
      (t.notice? s).toList.filter (·.session = session) ++ s'.owed session
  owesOwn : s'.OwesOwn

/-- Where nothing is registered, the sessions are older ones all. -/
lemma balances_of_narrows {t : Turn μ} {s : Running μ}
    (hs : s.shared.sessions.Narrows (act s t).shared.sessions)
    (hknown : ∀ n, t.notice? s = some n → n.session.number < s.shared.sessions.records.length)
    (hdeparts : ∀ session ∈ s.shared.sessions.list,
      session ∉ (act s t).shared.sessions.list → t.departure? s ≠ none)
    (hbalanced : ∀ session : Session.Ref,
      s.owed session ++ (t.parting? s session).elim [] (·.notices session) =
        (t.notice? s).toList.filter (·.session = session) ++ (act s t).owed session)
    (ho : (act s t).OwesOwn) : t.Balances s (act s t) :=
  ⟨Nat.le_of_eq hs.length.symm, fun session _ => ⟨hs.connection session, hs.list⟩,
    fun _ hlt hlt' => absurd (hs.length ▸ hlt') hlt, hknown, hdeparts,
    fun session _ => hbalanced session, ho⟩

/-- Nothing is reported, and whichever sessions leave, do so without a report. -/
lemma balances_of_quiet {t : Turn μ} {s : Running μ} (hn : t.notice? s = none)
    (hs : s.shared.sessions.Narrows (act s t).shared.sessions)
    (howed : ∀ session, (act s t).owed session = s.owed session)
    (hd : ∀ session ∈ s.shared.sessions.list, session ∉ (act s t).shared.sessions.list →
      t.departure? s = some .kill ∨ t.departure? s = some .drain)
    (ho : (act s t).OwesOwn) : t.Balances s (act s t) := by
  refine balances_of_narrows hs ?_ ?_ ?_ ho
  · intro n he
    rw [hn] at he
    cases he
  · intro session hm hgone
    rcases hd session hm hgone with he | he
    · exact he ▸ Option.some_ne_none _
    · exact he ▸ Option.some_ne_none _
  · intro session
    rw [hn, howed, parting?]
    split
    · rename_i hc
      rcases hd session hc.1 hc.2 with he | he
      · rw [he]
        exact List.append_nil _
      · rw [he]
        exact List.append_nil _
    · exact List.append_nil _

/-! ### Turns in which no loop moves -/

/-- No loop makes a step in a turn. -/
def IsIdle (s : Running μ) (t : Turn μ) : Prop :=
  ∀ env index size, t = .move env (.loop index size) → s.loops[index]? = none

namespace IsIdle

variable {s : Running μ} {t : Turn μ}

omit [Device.DeviceModule μ] in
lemma notice? (h : t.IsIdle s) : t.notice? s = none := by
  cases t with
  | modules change => rfl
  | move env what =>
    cases what with
    | loop index size => rw [Turn.notice?, h env index size rfl, Option.bind_none]
    | _ => rfl

/-- Only stopping the server takes sessions out then. -/
lemma departure? (h : t.IsIdle s) {session : Session.Ref} (hm : session ∈ s.shared.sessions.list)
    (hgone : session ∉ (act s t).shared.sessions.list) : t.departure? s = some .drain := by
  cases t with
  | modules change => exact absurd hm hgone
  | move env what =>
    by_cases hs : what = .stop
    · rw [hs]
      rfl
    by_cases hl : ∃ index size, what = .loop index size
    · obtain ⟨index, size, rfl⟩ := hl
      have hstate : act s (.move env (.loop index size)) = s :=
        (Action.gist_eq_iff.mp (Running.moveLoop_none env size (h env index size rfl))).2.1
      rw [hstate] at hgone
      exact absurd hm hgone
    · have hrests := Running.rests_step env s (fun index size he => hl ⟨index, size, he⟩) hs
      rw [act, Session.Registry.list, hrests.shared.byId] at hgone
      exact absurd hm hgone

lemma leaves (h : t.IsIdle s) :
    ((act s t).loops = s.loops ∨ ∃ socket, (act s t).loops = s.loops ++ [.start socket]) ∧
      s.shared.sessions.Narrows (act s t).shared.sessions := by
  have hsame (he : (act s t).shared.sessions = s.shared.sessions) :
      s.shared.sessions.Narrows (act s t).shared.sessions := by
    rw [he]
    exact Std.Refl.refl s.shared.sessions
  rcases t.effect s with hs | ⟨socket, _, hs, ⟨hl, -⟩ | ⟨hl, -⟩⟩ | ⟨socket, _, hl, hs⟩ |
    ⟨env, i, size, l, ht, hi, -⟩
  · exact ⟨.inl hs.loops, hs.shared.sessions⟩
  · exact ⟨.inr ⟨socket, hl⟩, hsame (by rw [hs])⟩
  · exact ⟨.inl hl, hsame (by rw [hs])⟩
  · exact ⟨.inr ⟨socket, hl⟩, hsame (by rw [hs])⟩
  · rw [h env i size ht] at hi
    cases hi

lemma balances (h : t.IsIdle s) (ho : s.OwesOwn) : t.Balances s (act s t) := by
  obtain ⟨hloops, hs⟩ := h.leaves
  refine balances_of_quiet h.notice? hs ?_ (fun _ hm hgone => .inr (h.departure? hm hgone)) ?_
  · intro session
    rcases hloops with he | ⟨socket, he⟩
    · rw [Running.owed, he, Running.owed]
    · rw [Running.owed, he, List.filterMap_append, Running.owed]
      exact List.append_nil _
  · intro i l n hi hn
    have hold : s.loops[i]? = some l := by
      rcases hloops with he | ⟨socket, he⟩
      · rwa [he] at hi
      · rw [he] at hi
        rcases Running.Valid.getElem?_concat hi with hi | rfl
        · exact hi
        · cases hn
    rw [hs.length, hs.connection]
    exact ho i l n hold hn

end IsIdle

/-! ### Turns in which a loop moves -/

section Stepped

variable {s : Running μ} (env : Environment) {i : Nat} (size : Nat) {l : Loop}

lemma act_loop (hi : s.loops[i]? = some l) :
    (act s (.move env (.loop i size))).loops =
        s.loops.set i (l.step env size s.shared).value ∧
      (act s (.move env (.loop i size))).shared = (l.step env size s.shared).state := by
  have hstate := (Action.gist_eq_iff.mp (Running.moveLoop_eq env i size hi)).2.1
  change (Running.moveLoop env i size s).state.loops = _ ∧
    (Running.moveLoop env i size s).state.shared = _
  rw [hstate]
  exact ⟨rfl, rfl⟩

lemma owed_of_owedTo? (hi : s.loops[i]? = some l) {session : Session.Ref}
    (he : (l.step env size s.shared).value.phase.owedTo? session = l.phase.owedTo? session) :
    (act s (.move env (.loop i size))).owed session = s.owed session := by
  rw [Running.owed, (act_loop env size hi).1]
  exact Running.filterMap_set hi he

/-- Where no other loop owes anything about a session, what the loop owes is all that is owed,
before its step and behind it. -/
lemma owed_of_only (hi : s.loops[i]? = some l) {session : Session.Ref}
    (honly : ∀ j m, s.loops[j]? = some m → j ≠ i → m.phase.owedTo? session = none) :
    s.owed session = (l.phase.owedTo? session).toList ∧
      (act s (.move env (.loop i size))).owed session =
        ((l.step env size s.shared).value.phase.owedTo? session).toList := by
  have hlt : i < s.loops.length := (List.getElem?_eq_some_iff.mp hi).1
  refine ⟨Running.filterMap_of_only hi honly, ?_⟩
  rw [Running.owed, (act_loop env size hi).1]
  apply Running.filterMap_of_only (List.getElem?_set_self hlt)
  intro j m hj hji
  rw [List.getElem?_set_ne (Ne.symm hji)] at hj
  exact honly j m hj hji

/-- The step of a loop leaves it to the loop whether whatever is owed is about sessions of the right
connections. -/
lemma owesOwn_of_step (ho : s.OwesOwn) (hi : s.loops[i]? = some l)
    (hlen : s.shared.sessions.records.length ≤
      (l.step env size s.shared).state.sessions.records.length)
    (hc : ∀ session : Session.Ref, session.number < s.shared.sessions.records.length →
      ((l.step env size s.shared).state.sessions.record session).connection =
        (s.shared.sessions.record session).connection)
    (hself : ∀ n, (l.step env size s.shared).value.phase.owed? = some n →
      n.session.number < (l.step env size s.shared).state.sessions.records.length ∧
        ((l.step env size s.shared).state.sessions.record n.session).connection = l.connection) :
    (act s (.move env (.loop i size))).OwesOwn := by
  intro j m n hj hn
  rw [(act_loop env size hi).1] at hj
  rw [(act_loop env size hi).2]
  rcases Running.Valid.getElem?_set_cases hj with ⟨rfl, rfl⟩ | ⟨-, hj⟩
  · rw [Loop.connection_of_owed? env size s.shared hn]
    exact hself n hn
  · obtain ⟨hlt, he⟩ := ho j m n hj hn
    exact ⟨Nat.lt_of_lt_of_le hlt hlen, (hc n.session hlt).trans he⟩

lemma owesOwn_of_narrows (ho : s.OwesOwn) (hi : s.loops[i]? = some l)
    (hs : s.shared.sessions.Narrows (l.step env size s.shared).state.sessions)
    (hself : ∀ n, (l.step env size s.shared).value.phase.owed? = some n →
      n.session.number < s.shared.sessions.records.length ∧
        (s.shared.sessions.record n.session).connection = l.connection) :
    (act s (.move env (.loop i size))).OwesOwn := by
  refine owesOwn_of_step env size ho hi (Nat.le_of_eq hs.length.symm)
    (fun session _ => hs.connection session) fun n hn => ?_
  rw [hs.length, hs.connection]
  exact hself n hn

omit [Device.DeviceModule μ] in
lemma notice?_loop (hi : s.loops[i]? = some l) :
    (Turn.move env (.loop i size)).notice? s = l.phase.notice? := by
  rw [Turn.notice?, hi, Option.bind_some]

omit [Device.DeviceModule μ] in
lemma departure?_loop (hi : s.loops[i]? = some l) :
    (Turn.move env (.loop i size)).departure? s = l.phase.departure? := by
  rw [Turn.departure?, hi, Option.bind_some]

/-- A loop that registers a session owes its opening. -/
lemma balances_registers (ho : s.OwesOwn) (hi : s.loops[i]? = some l) {session : Session.Ref}
    {record : Session.Record}
    (hr : s.shared.sessions.Registers (l.step env size s.shared).state.sessions session record)
    (hc : record.connection = l.connection) (hsilent : l.phase.notice? = none)
    (hunowed : l.phase.owed? = none)
    (howed : (l.step env size s.shared).value.phase.owed? = some (.opened session)) :
    (Turn.move env (.loop i size)).Balances s (act s (.move env (.loop i size))) := by
  have hlen : s.shared.sessions.records.length ≤
      (l.step env size s.shared).state.sessions.records.length := hr.ages.length
  have hold : ∀ other : Session.Ref, other.number < s.shared.sessions.records.length →
      ((l.step env size s.shared).state.sessions.record other).connection =
        (s.shared.sessions.record other).connection :=
    fun other hlt => congrArg _ (hr.record_of_lt hlt)
  have hshared := (act_loop env size hi).2
  refine ⟨hshared ▸ hlen, fun other hlt => ⟨hshared ▸ hold other hlt, fun hm => ?_⟩,
    fun other hn hlt => ?_, fun n he => ?_, fun other hm hgone => ?_, fun other hlt => ?_, ?_⟩
  · rw [hshared] at hm
    rcases hr.mem_list.mp hm with rfl | hm
    · exact absurd hr.number (Nat.ne_of_lt hlt)
    · exact hm
  · rw [hshared] at hlt ⊢
    obtain rfl := (hr.lt_length_iff.mp hlt).resolve_right hn
    have honly : ∀ j m, s.loops[j]? = some m → j ≠ i → m.phase.owedTo? other = none := by
      intro j m hj _
      cases hm : m.phase.owed? with
      | none => exact Phase.owedTo?_of_none hm other
      | some n => exact Phase.owedTo?_of_ne hm fun he => hn (he ▸ (ho j m n hj hm).1)
    have hnow := Phase.owedTo?_of_eq howed (show (Notice.opened other).session = other from rfl)
    rw [(owed_of_only env size hi honly).2, hnow]
    exact ⟨hr.mem_list.mpr (.inl rfl), rfl⟩
  · rw [notice?_loop env size hi, hsilent] at he
    cases he
  · rw [hshared] at hgone
    exact absurd (hr.mem_list.mpr (.inr hm)) hgone
  · have hne : session ≠ other := by
      rintro rfl
      exact absurd hr.number (Nat.ne_of_lt hlt)
    have hsame := (Phase.owedTo?_of_ne howed hne).trans (Phase.owedTo?_of_none hunowed other).symm
    rw [owed_of_owedTo? env size hi hsame, notice?_loop env size hi, hsilent, parting?_of_stays]
    · exact List.append_nil _
    · intro hm
      rw [hshared]
      exact hr.mem_list.mpr (.inr hm)
  · refine owesOwn_of_step env size ho hi hlen hold fun n hn => ?_
    obtain rfl := Option.some.inj (howed.symm.trans hn)
    refine ⟨hr.lt_length_iff.mpr (.inl rfl), ?_⟩
    exact (congrArg Session.Record.connection hr.record_self).trans hc

/-- A loop that reports what it owes owes nothing any more. -/
lemma balances_tells (hv : s.Valid) (ho : s.OwesOwn) (hi : s.loops[i]? = some l) {n : Notice}
    (hn : l.phase.notice? = some n)
    (hs : (l.step env size s.shared).state.sessions = s.shared.sessions)
    (howed : (l.step env size s.shared).value.phase.owed? = none) :
    (Turn.move env (.loop i size)).Balances s (act s (.move env (.loop i size))) := by
  have hshared : (act s (.move env (.loop i size))).shared.sessions = s.shared.sessions := by
    rw [(act_loop env size hi).2, hs]
  have hnarrows : s.shared.sessions.Narrows s.shared.sessions := Std.Refl.refl _
  have hbefore := Phase.owed?_of_notice? hn
  obtain ⟨hlt, hc⟩ := ho i l n hi hbefore
  refine balances_of_narrows (hshared ▸ hnarrows) (fun m hm => ?_)
    (fun other hm hgone => absurd (hshared ▸ hm) hgone) (fun other => ?_) ?_
  · rw [notice?_loop env size hi, hn] at hm
    exact Option.some.inj hm ▸ hlt
  · rw [notice?_loop env size hi, hn, parting?_of_stays (by rw [hshared]; exact id)]
    by_cases he : n.session = other
    · subst he
      have honly := ho.only hv hi (Phase.isLinked_of_owed? hbefore) hc
      rw [(owed_of_only env size hi honly).1, (owed_of_only env size hi honly).2,
        Phase.owedTo?_of_eq hbefore rfl, Phase.owedTo?_of_none howed]
      simp
    · have hsame := (Phase.owedTo?_of_none howed other).trans
        (Phase.owedTo?_of_ne hbefore he).symm
      rw [owed_of_owedTo? env size hi hsame]
      simp [he]
  · refine owesOwn_of_narrows env size ho hi (hs ▸ hnarrows) fun m hm => ?_
    rw [howed] at hm
    cases hm

/-- A loop that takes its session out owes its closing. -/
lemma balances_takes (hv : s.Valid) (ho : s.OwesOwn) (hi : s.loops[i]? = some l)
    {reason : ExitReason} {own : Session.Ref} (hp : l.phase = .removing reason)
    (hown : l.own = some own) (hm : own ∈ s.shared.sessions.list)
    (hs : (l.step env size s.shared).state.sessions = (s.shared.sessions.detachRef own).1)
    (howed : (l.step env size s.shared).value.phase.owed? = some (.closed own reason)) :
    (Turn.move env (.loop i size)).Balances s (act s (.move env (.loop i size))) := by
  have hshared : (act s (.move env (.loop i size))).shared.sessions =
      (s.shared.sessions.detachRef own).1 := by
    rw [(act_loop env size hi).2, hs]
  have hnarrows := s.shared.sessions.narrows_detachRef own
  have hsilent : l.phase.notice? = none := by rw [hp]; rfl
  have hunowed : l.phase.owed? = none := by rw [hp]; rfl
  have hdeparture : (Turn.move env (.loop i size)).departure? s = some (.teardown reason) := by
    rw [departure?_loop env size hi, hp]
    rfl
  have hheld : l.held = some own := by
    rw [Loop.held_of_ne fun _ he => Phase.noConfusion (hp.symm.trans he), hown]
  obtain ⟨hlt, hc⟩ := (hv.fits i l hi).held own hheld
  refine balances_of_narrows (hshared ▸ hnarrows) (fun n he => ?_) (fun other _ _ => ?_)
    (fun other => ?_) ?_
  · rw [notice?_loop env size hi, hsilent] at he
    cases he
  · rw [hdeparture]
    exact Option.some_ne_none _
  · rw [notice?_loop env size hi, hsilent]
    by_cases he : other = own
    · subst he
      have honly := ho.only hv hi (by rw [hp]; rfl) hc
      have hgone : other ∉ (act s (.move env (.loop i size))).shared.sessions.list := by
        rw [hshared]
        exact Session.Registry.not_mem_detachRef hv.sound.sessions other
      have hnow := Phase.owedTo?_of_eq howed
        (show (Notice.closed other reason).session = other from rfl)
      rw [parting?, if_pos ⟨hm, hgone⟩, hdeparture, (owed_of_only env size hi honly).1,
        (owed_of_only env size hi honly).2, Phase.owedTo?_of_none hunowed, hnow]
      rfl
    · have hsame := (Phase.owedTo?_of_ne howed (Ne.symm he)).trans
        (Phase.owedTo?_of_none hunowed other).symm
      rw [owed_of_owedTo? env size hi hsame, parting?_of_stays]
      · exact List.append_nil _
      · rw [hshared]
        exact (Session.Registry.mem_list_detachRef hv.sound.sessions he).mpr
  · refine owesOwn_of_narrows env size ho hi (hs ▸ hnarrows) fun n hn => ?_
    obtain rfl := Option.some.inj (howed.symm.trans hn)
    exact ⟨hlt, hc⟩

lemma balances_keeps (ho : s.OwesOwn) (hi : s.loops[i]? = some l)
    (hsilent : l.phase.notice? = none)
    (howed : (l.step env size s.shared).value.phase.owed? = l.phase.owed?)
    (hs : s.shared.sessions.Narrows (l.step env size s.shared).state.sessions)
    (hd : ∀ session ∈ s.shared.sessions.list,
      session ∉ (l.step env size s.shared).state.sessions.list →
        l.phase.departure? = some .kill) :
    (Turn.move env (.loop i size)).Balances s (act s (.move env (.loop i size))) := by
  have hshared := (act_loop env size hi).2
  refine balances_of_quiet ((notice?_loop env size hi).trans hsilent) (hshared ▸ hs) ?_ ?_ ?_
  · exact fun session => owed_of_owedTo? env size hi (congrArg (Option.filter _) howed)
  · intro session hm hgone
    rw [hshared] at hgone
    exact .inl ((departure?_loop env size hi).trans (hd session hm hgone))
  · exact owesOwn_of_narrows env size ho hi hs fun n hn => ho i l n hi (howed.symm.trans hn)

end Stepped

/-- Whatever happens in a turn, the accounts balance. -/
lemma balances {s : Running μ} (hv : s.Valid) (ho : s.OwesOwn) (t : Turn μ) :
    t.Balances s (act s t) := by
  by_cases hidle : t.IsIdle s
  · exact hidle.balances ho
  simp only [IsIdle, not_forall] at hidle
  obtain ⟨env, i, size, rfl, hi⟩ := hidle
  obtain ⟨l, hi⟩ := Option.ne_none_iff_exists'.mp hi
  cases Loop.passage env size hv.sound.sessions (l := l) with
  | registers hr hc hsilent hunowed howed =>
    exact balances_registers env size ho hi hr hc hsilent hunowed howed
  | tells hn hs howed => exact balances_tells env size hv ho hi hn hs howed
  | takes hp hown hm hs howed => exact balances_takes env size hv ho hi hp hown hm hs howed
  | keeps hsilent howed hs hd => exact balances_keeps env size ho hi hsilent howed hs hd

end Turn

/-! ## Runs -/

namespace Running

variable [Device.DeviceModule μ]

/-- How a session leaves the registry in turns that happen one after the other, if it does. -/
def departure? (s : Running μ) (session : Session.Ref) : List (Turn μ) → Option Departure
  | [] => none
  | t :: rest => (t.parting? s session).or (departure? (Turn.act s t) session rest)

/-- What has been reported and whoever has left so far. Whatever has been reported about a session
is, with what is still owed, its opening and what there is to report of its departure, and a session
that has not left is registered. -/
structure Accounted (s : Running μ) (told : List Notice) (left : Session.Ref → Option Departure) :
    Prop where
  valid : s.Valid
  owesOwn : s.OwesOwn
  known : ∀ n ∈ told, n.session.number < s.shared.sessions.records.length
  registered : ∀ session : Session.Ref, session.number < s.shared.sessions.records.length →
    (session ∈ s.shared.sessions.list ↔ left session = none)
  unborn : ∀ session : Session.Ref, ¬session.number < s.shared.sessions.records.length →
    left session = none
  balanced : ∀ session : Session.Ref, session.number < s.shared.sessions.records.length →
    told.filter (·.session = session) ++ s.owed session =
      .opened session :: (left session).elim [] (·.notices session)

omit [Device.DeviceModule μ] in
lemma IsNew.accounted {s : Running μ} (h : s.IsNew) : s.Accounted [] fun _ => none := by
  have hrecords : s.shared.sessions.records = [] := by rw [h.shared]; rfl
  have hnone : ∀ session : Session.Ref,
      ¬session.number < s.shared.sessions.records.length := by
    intro session
    rw [hrecords]
    exact Nat.not_lt_zero _
  refine ⟨h.valid, ?_, (fun n hm => nomatch hm), fun session hlt => absurd hlt (hnone session),
    fun _ _ => rfl, fun session hlt => absurd hlt (hnone session)⟩
  intro i l n hi _
  rw [h.loops] at hi
  cases hi

lemma Accounted.turn {s : Running μ} {told : List Notice} {left : Session.Ref → Option Departure}
    (h : s.Accounted told left) (t : Turn μ) :
    Accounted (Turn.act s t) (told ++ (t.notice? s).toList)
      fun session => (left session).or (t.parting? s session) := by
  have hb := Turn.balances h.valid h.owesOwn t
  -- Whoever has left is not registered, and does not leave again.
  have hgone : ∀ session : Session.Ref, session.number < s.shared.sessions.records.length →
      ∀ d, left session = some d → session ∉ s.shared.sessions.list := by
    intro session hlt d hd hm
    rw [(h.registered session hlt).mp hm] at hd
    cases hd
  have hunborn : ∀ session : Session.Ref, ¬session.number < s.shared.sessions.records.length →
      t.parting? s session = none := fun session hn =>
    Turn.parting?_of_stays fun hm => absurd (h.valid.sound.sessions.lt_of_mem_list hm) hn
  refine ⟨h.valid.turn t, hb.owesOwn, ?_, ?_, ?_, ?_⟩
  · intro n hm
    apply Nat.lt_of_lt_of_le _ hb.length
    rcases List.mem_append.mp hm with hm | hm
    · exact h.known n hm
    · exact hb.known n (Option.mem_toList.mp hm)
  · intro session hlt
    by_cases hold : session.number < s.shared.sessions.records.length
    · cases hl : left session with
      | some d =>
        refine ⟨fun hm => absurd ((hb.older session hold).2 hm) (hgone session hold d hl), ?_⟩
        intro hn
        cases hn
      | none =>
        have hm := (h.registered session hold).mpr hl
        rw [Option.none_or, Turn.parting?]
        by_cases hstays : session ∈ (Turn.act s t).shared.sessions.list
        · exact ⟨fun _ => if_neg fun hc => hc.2 hstays, fun _ => hstays⟩
        · rw [if_pos ⟨hm, hstays⟩]
          exact ⟨fun hc => absurd hc hstays, fun hn => absurd hn (hb.departs session hm hstays)⟩
    · rw [h.unborn session hold, hunborn session hold]
      exact ⟨fun _ => rfl, fun _ => (hb.newer session hold hlt).1⟩
  · intro session hn
    have hold : ¬session.number < s.shared.sessions.records.length :=
      fun hc => hn (Nat.lt_of_lt_of_le hc hb.length)
    rw [h.unborn session hold, hunborn session hold]
    rfl
  · intro session hlt
    rw [List.filter_append]
    by_cases hold : session.number < s.shared.sessions.records.length
    · rw [List.append_assoc, ← hb.balanced session hold, ← List.append_assoc,
        h.balanced session hold]
      cases hl : left session with
      | some d =>
        rw [Turn.parting?_of_stays fun hm => absurd hm (hgone session hold d hl)]
        exact List.append_nil _
      | none => rfl
    · have htold : told.filter (·.session = session) = [] :=
        List.filter_eq_nil_iff.mpr fun n hm he => hold (of_decide_eq_true he ▸ h.known n hm)
      have hnotice : (t.notice? s).toList.filter (·.session = session) = [] :=
        List.filter_eq_nil_iff.mpr fun n hm he =>
          hold (of_decide_eq_true he ▸ hb.known n (Option.mem_toList.mp hm))
      rw [htold, hnotice, (hb.newer session hold hlt).2, h.unborn session hold,
        hunborn session hold]
      rfl

lemma Accounted.after {s : Running μ} {told : List Notice} {left : Session.Ref → Option Departure}
    (h : s.Accounted told left) (turns : List (Turn μ)) :
    Accounted (s.after turns) (told ++ s.notices turns)
      fun session => (left session).or (s.departure? session turns) := by
  induction turns generalizing s told left with
  | nil =>
    simp only [after_nil, notices, departure?, List.append_nil, Option.or_none]
    exact h
  | cons t rest ih =>
    have hrest := ih (h.turn t)
    simp only [List.append_assoc, Option.or_assoc] at hrest
    exact hrest

/-! ### Reports -/

/-- What is reported of a session does not depend on how long one waits for it. -/
lemma event_after (s : Running μ) (turns : List (Turn μ)) {n : Notice}
    (h : n.session.number < s.shared.sessions.records.length) :
    n.event (s.after turns).shared.sessions = n.event s.shared.sessions := by
  have hcontext := (ages_after s turns).context n.session h
  cases n with
  | opened session | closed session reason =>
    have hsession : ((s.after turns).shared.sessions.record session).context =
        (s.shared.sessions.record session).context := hcontext
    simp only [Notice.event, Session.Record.id, hsession]

lemma reports_eq_map {s : Running μ} (hv : s.Valid) (ho : s.OwesOwn) (turns : List (Turn μ)) :
    s.reports turns = (s.notices turns).map (·.event (s.after turns).shared.sessions) := by
  induction turns generalizing s with
  | nil => rfl
  | cons t rest ih =>
    have hb := Turn.balances hv ho t
    have hnow : t.reports s =
        (t.notice? s).toList.map (·.event (s.after (t :: rest)).shared.sessions) := by
      rw [t.reports_eq]
      refine List.map_congr_left fun n hn => ?_
      exact (event_after s (t :: rest) (hb.known n (Option.mem_toList.mp hn))).symm
    rw [reports, notices, hnow, ih (hv.turn t) hb.owesOwn, List.map_append, after_cons]

/-- What is reported in a run: notices of sessions that there are, and of each session at any time a
beginning of its opening and what there is to report of its departure, which is the closing if its
own loop has taken it out and nothing otherwise. Behind the end of a session's connection it has
left, and all of that has been reported. -/
structure Reporting (s : Running μ) (turns : List (Turn μ)) : Prop where
  reports : s.reports turns = (s.notices turns).map (·.event (s.after turns).shared.sessions)
  known : ∀ n ∈ s.notices turns,
    n.session.number < (s.after turns).shared.sessions.records.length
  registered : ∀ session : Session.Ref,
    session.number < (s.after turns).shared.sessions.records.length →
      (session ∈ (s.after turns).shared.sessions.list ↔ s.departure? session turns = none)
  ordered : ∀ session : Session.Ref, (s.notices turns).filter (·.session = session) <+:
    .opened session :: (s.departure? session turns).elim [] (·.notices session)
  finished : ∀ (i : Nat) (l : Loop), (s.after turns).loops[i]? = some l →
    l.phase = .releasing ∨ l.phase = .ended → ∀ session : Session.Ref,
      session.number < (s.after turns).shared.sessions.records.length →
      ((s.after turns).shared.sessions.record session).connection = l.connection →
        ∃ departure, s.departure? session turns = some departure ∧
          (s.notices turns).filter (·.session = session) =
            .opened session :: departure.notices session

omit [Device.DeviceModule μ] in
lemma Accounted.ordered {s : Running μ} {told : List Notice}
    {left : Session.Ref → Option Departure} (h : s.Accounted told left) (session : Session.Ref) :
    told.filter (·.session = session) <+:
      .opened session :: (left session).elim [] (·.notices session) := by
  by_cases hlt : session.number < s.shared.sessions.records.length
  · exact ⟨s.owed session, h.balanced session hlt⟩
  · have hnone : told.filter (·.session = session) = [] :=
      List.filter_eq_nil_iff.mpr fun n hm he => hlt (of_decide_eq_true he ▸ h.known n hm)
    rw [hnone]
    exact List.nil_prefix

omit [Device.DeviceModule μ] in
/-- A loop that has forgotten its connection owes nothing, and neither does any other about a
session of that connection. -/
lemma Accounted.finished {s : Running μ} {told : List Notice}
    {left : Session.Ref → Option Departure} (h : s.Accounted told left) {i : Nat} {l : Loop}
    (hi : s.loops[i]? = some l) (hp : l.phase = .releasing ∨ l.phase = .ended)
    {session : Session.Ref} (hlt : session.number < s.shared.sessions.records.length)
    (hc : (s.shared.sessions.record session).connection = l.connection) :
    ∃ departure, left session = some departure ∧
      told.filter (·.session = session) = .opened session :: departure.notices session := by
  have hunlinked : l.phase.isLinked = false := by
    rcases hp with hp | hp
    · rw [hp]
      rfl
    · rw [hp]
      rfl
  have howed : s.owed session = [] := by
    refine List.filterMap_eq_nil_iff.mpr fun m hm => ?_
    obtain ⟨j, hj⟩ := List.mem_iff_getElem?.mp hm
    cases ho : m.phase.owed? with
    | none => exact Phase.owedTo?_of_none ho session
    | some n =>
      refine Phase.owedTo?_of_ne ho fun he => ?_
      -- The connection of a loop that owes something is open, and this one is not.
      have hlinked := (h.valid.fits j m hj).linked (Phase.isLinked_of_owed? ho)
      have hsame : m.connection = l.connection := by
        rw [← (h.owesOwn j m n hj ho).2, he, hc]
      exact (h.valid.fits i l hi).unlinked hunlinked m.socket (hsame ▸ hlinked)
  have hgone : session ∉ s.shared.sessions.list :=
    fun hm => h.valid.forgets hi hunlinked session hm hc
  cases hl : left session with
  | none => exact absurd ((h.registered session hlt).mpr hl) hgone
  | some departure =>
    have hbalanced := h.balanced session hlt
    rw [howed, List.append_nil, hl] at hbalanced
    exact ⟨departure, rfl, hbalanced⟩

/-- What is reported of the sessions in every run of a server, in whichever order its threads and
its peers move. -/
theorem reporting_after (s : Running μ) (h : s.IsNew) (turns : List (Turn μ)) :
    s.Reporting turns := by
  have hend := h.accounted.after turns
  simp only [List.nil_append, Option.none_or] at hend
  exact ⟨reports_eq_map h.valid h.accounted.owesOwn turns, hend.known, hend.registered,
    hend.ordered, fun _ _ hi hp _ hlt hc => hend.finished hi hp hlt hc⟩

/-- Of three peers the first hangs up, the third kills the session of the second, and then the
server is stopped. -/
def farewellTurns : List (Turn Device.ScriptedModule) :=
  let hello (id : String) : Protocol.AgentMessage := .hello ⟨id, "operator", .empty⟩
  let kill : Protocol.AgentMessage :=
    .rpc ⟨"c", none, "kill-session", none, .ofMembers [("session-id", .string "b")]⟩
  [.connect, .connect, .connect, .send 0 (hello "a"), .send 1 (hello "b"), .send 2 (hello "c")] ++
    Turn.steps 0 12 ++ Turn.steps 1 12 ++ Turn.steps 2 12 ++ [.move .calm (.hangUp ⟨0⟩)] ++
    Turn.steps 0 18 ++ [.send 2 kill] ++ Turn.steps 2 30 ++ Turn.steps 1 12 ++
    List.replicate 4 (.move .calm .stop) ++ Turn.steps 2 12

theorem reporting_after_farewells :
    let start : Running Device.ScriptedModule := .ofHost default
    start.IsNew ∧ start.Reporting farewellTurns ∧
      [⟨0⟩, ⟨1⟩, ⟨2⟩].map (start.departure? · farewellTurns) =
        [some (.teardown .hangUp), some .kill, some .drain] :=
  ⟨isNew_ofHost default, reporting_after _ (isNew_ofHost default) farewellTurns, by decide +kernel⟩

/-- The connections of all three are at their end, and the closing of one session was reported. -/
theorem killed_session_unreported :
    let start : Running Device.ScriptedModule := .ofHost default
    start.IsNew ∧ (start.after farewellTurns).loops.map (·.isEnded) = [true, true, true] ∧
      start.reports farewellTurns =
        [.sessionOpened "a" "operator", .sessionOpened "b" "operator",
          .sessionOpened "c" "operator", .sessionClosed "a" .hangUp] := by
  have hnew : IsNew (.ofHost default : Running Device.ScriptedModule) := isNew_ofHost default
  refine ⟨hnew, by decide +kernel, ?_⟩
  have hnotices : notices (.ofHost default) farewellTurns =
      [.opened ⟨0⟩, .opened ⟨1⟩, .opened ⟨2⟩, .closed ⟨0⟩ .hangUp] := by decide +kernel
  have hcontexts : [⟨0⟩, ⟨1⟩, ⟨2⟩].map (fun session =>
      let record := (after (.ofHost default) farewellTurns).shared.sessions.record session
      (record.id, record.context.username)) =
        [("a", "operator"), ("b", "operator"), ("c", "operator")] := by decide +kernel
  simp only [List.map_cons, List.map_nil, List.cons.injEq, Prod.mk.injEq] at hcontexts
  rw [reports_eq_map hnew.valid hnew.accounted.owesOwn, hnotices]
  simp [Notice.event, hcontexts]

end Running

end ManagementServer.Server
