import ManagementServer.Proofs.Runs

/-!
# The invariant of a running server

`Running.Valid` ties the session registry, the table of connections and the loops together:
whichever session is registered, a loop with a connection of its own holds it. No turn breaks it
(`Running.Valid.turn`), whichever thread makes it.
-/

namespace ManagementServer.Server

open ManagementServer.Action (Yields)

variable {μ : Type}

/-- The session that closing a session goes on to change. -/
def Closing.session? : Closing → Option Session.Ref
  | .mark session | .take session => some session
  | _ => none

/-- A loop fits to what the threads share: its connection is open or it is not, as its phase says,
and the session that it holds is one of its connection. -/
structure Loop.Fits (l : Loop) (s : Shared μ) : Prop where
  number : l.connection.number < s.table.nextId
  linked : l.phase.isLinked → (l.connection, l.socket) ∈ s.carriers
  unlinked : l.phase.isLinked = false → ∀ socket, (l.connection, socket) ∉ s.carriers
  held : ∀ session, l.held = some session →
    session.number < s.sessions.records.length ∧
      (s.sessions.record session).connection = l.connection
  unheld : l.phase = .registering → l.own = none
  closing : ∀ reason session rest, l.phase = .closing reason session rest →
    l.own = some session ∧ ∀ other, rest.session? = some other → other = session

/-- The tables that the threads share are in order. -/
structure Shared.Sound (s : Shared μ) : Prop where
  sessions : s.sessions.Coherent
  carriers : (s.carriers.map (·.1)).Nodup
  numbers : ∀ connection socket, (connection, socket) ∈ s.carriers →
    1 ≤ connection.number ∧ connection.number < s.table.nextId
  nextId : 1 ≤ s.table.nextId

/-- The tables are in order, every loop fits to them and has a connection and a socket of its own,
and every registered session is held by a loop that serves its peer. -/
structure Running.Valid (s : Running μ) : Prop where
  sound : s.shared.Sound
  fits : ∀ (i : Nat) (l : Loop), s.loops[i]? = some l → l.Fits s.shared
  connections : ∀ (i j : Nat) (l m : Loop), s.loops[i]? = some l → s.loops[j]? = some m →
    l.connection = m.connection → 1 ≤ l.connection.number → i = j
  sockets : (s.loops.map (·.socket) ++ s.backlog).Nodup
  inRange : ∀ socket ∈ s.loops.map (·.socket) ++ s.backlog,
    socket.number < s.shared.sockets.length
  carried : ∀ session ∈ s.shared.sessions.list, ∃ (i : Nat) (l : Loop), s.loops[i]? = some l ∧
    l.phase.isServing ∧ l.held = some session

lemma Running.IsNew.valid {s : Running μ} (h : s.IsNew) : s.Valid := by
  have hsessions : s.shared.sessions = .empty := by rw [h.shared]; rfl
  have htable : s.shared.table = .empty := by rw [h.shared]; rfl
  have hcarriers : s.shared.carriers = [] := by rw [Shared.carriers, htable]; rfl
  refine ⟨⟨?_, ?_, ?_, ?_⟩, ?_, ?_, ?_, ?_, ?_⟩
  · rw [hsessions]
    exact Session.Registry.coherent_empty
  · rw [hcarriers]
    exact List.nodup_nil
  · simp [hcarriers]
  · rw [htable]
    exact Nat.le_refl 1
  · simp [h.loops]
  · simp [h.loops]
  · simp [h.loops, h.backlog]
  · simp [h.loops, h.backlog]
  · rw [hsessions]
    intro session hm
    cases hm

/-! ## Steps that register nothing -/

lemma Shared.Sound.persists {s s' : Shared μ} (h : s.Sound) (hp : s.Persists s') : s'.Sound := by
  refine ⟨hp.sessions.coherent h.sessions, ?_, ?_, ?_⟩
  · rw [hp.carriers]
    exact h.carriers
  · rw [hp.carriers, hp.nextId]
    exact h.numbers
  · rw [hp.nextId]
    exact h.nextId

lemma Loop.Fits.persists {l : Loop} {s s' : Shared μ} (h : l.Fits s) (hp : s.Persists s') :
    l.Fits s' := by
  refine ⟨?_, ?_, ?_, ?_, h.unheld, h.closing⟩
  · rw [hp.nextId]
    exact h.number
  · rw [hp.carriers]
    exact h.linked
  · rw [hp.carriers]
    exact h.unlinked
  · intro session hs
    rw [hp.sessions.length, hp.sessions.connection]
    exact h.held session hs

lemma Loop.Fits.serves {l l' : Loop} {s : Shared μ} (h : l.Fits s) (hp : l.phase.isServing)
    (hh : l.held = l.own) (hs : Serves l l') : l'.Fits s := by
  have hl' := Phase.isLinked_of_isServing hs.serving
  refine ⟨?_, ?_, ?_, ?_, ?_, ?_⟩
  · rw [hs.connection]
    exact h.number
  · intro _
    rw [hs.connection, hs.socket]
    exact h.linked (Phase.isLinked_of_isServing hp)
  · intro hn
    rw [hl'] at hn
    cases hn
  · intro session hse
    rw [hs.held, hs.own, ← hh] at hse
    rw [hs.connection]
    exact h.held session hse
  · intro hr
    have := hs.serving
    rw [hr] at this
    cases this
  · intro reason session rest hr
    have := hs.serving
    rw [hr] at this
    cases this

namespace Running.Valid

variable {s s' : Running μ}

lemma steady (h : s.Valid) (hs : s.Steady s') : s'.Valid := by
  have hp := hs.shared.toPersists
  refine ⟨h.sound.persists hp, ?_, ?_, ?_, ?_, ?_⟩
  · rw [hs.loops]
    exact fun i l hl => (h.fits i l hl).persists hp
  · rw [hs.loops]
    exact h.connections
  · rw [hs.loops]
    exact h.sockets.sublist ((List.Sublist.refl _).append hs.backlog)
  · rw [hs.loops, hp.sockets]
    exact fun socket hm =>
      h.inRange socket (((List.Sublist.refl _).append hs.backlog).subset hm)
  · rw [hs.loops]
    exact fun session hm => h.carried session (hp.sessions.list hm)

/-! ## Loops that start -/

lemma fits_start (h : s.shared.Sound) (socket : SocketId) : (Loop.start socket).Fits s.shared := by
  refine ⟨h.nextId, ?_, ?_, ?_, fun _ => rfl, ?_⟩
  · intro hl
    cases hl
  · intro _ other hm
    have := (h.numbers _ _ hm).1
    exact absurd this (Nat.not_succ_le_zero 0)
  · intro session hs
    cases hs
  · intro reason session rest hr
    cases hr

lemma getElem?_concat {α : Type} {xs : List α} {i : Nat} {a b : α}
    (h : (xs ++ [b])[i]? = some a) : xs[i]? = some a ∨ a = b := by
  by_cases hi : i < xs.length
  · rw [List.getElem?_append_left hi] at h
    exact .inl h
  · rw [List.getElem?_append_right (by omega)] at h
    exact .inr (List.mem_singleton.mp (List.mem_of_getElem? h))

/-- A loop that starts has no connection and no session yet. -/
lemma starts (h : s.Valid) {socket : SocketId} (hl : s'.loops = s.loops ++ [.start socket])
    (hs : s'.shared = s.shared)
    (hp : (s'.loops.map (·.socket) ++ s'.backlog).Perm (s.loops.map (·.socket) ++ s.backlog)) :
    s'.Valid := by
  refine ⟨hs ▸ h.sound, ?_, ?_, ?_, ?_, ?_⟩
  · rw [hl, hs]
    intro i l hi
    rcases getElem?_concat hi with hi | rfl
    · exact h.fits i l hi
    · exact fits_start h.sound socket
  · rw [hl]
    intro i j l m hi hj he hn
    rcases getElem?_concat hi with hi' | rfl
    · rcases getElem?_concat hj with hj' | rfl
      · exact h.connections i j l m hi' hj' he hn
      · rw [he] at hn
        exact absurd hn (Nat.not_succ_le_zero 0)
    · exact absurd hn (Nat.not_succ_le_zero 0)
  · exact hp.nodup_iff.mpr h.sockets
  · rw [hs]
    exact fun other hm => h.inRange other (hp.subset hm)
  · rw [hs, hl]
    intro session hm
    obtain ⟨i, l, hi, hrest⟩ := h.carried session hm
    have hlt : i < s.loops.length := (List.getElem?_eq_some_iff.mp hi).1
    exact ⟨i, l, by rw [List.getElem?_append_left hlt]; exact hi, hrest⟩

/-- A socket that was just made waits to be accepted. -/
lemma arrives (h : s.Valid) {socket : SocketId} (hn : socket.number = s.shared.sockets.length)
    (hs : s'.shared = { s.shared with sockets := s.shared.sockets ++ [.fresh] })
    (hl : s'.loops = s.loops) (hb : s'.backlog = s.backlog ++ [socket]) : s'.Valid := by
  have hlist : s'.loops.map (·.socket) ++ s'.backlog =
      (s.loops.map (·.socket) ++ s.backlog) ++ [socket] := by
    rw [hl, hb, List.append_assoc]
  have hlen : s'.shared.sockets.length = s.shared.sockets.length + 1 := by
    rw [hs, List.length_append]
    rfl
  refine ⟨?_, ?_, ?_, ?_, ?_, ?_⟩
  · rw [hs]
    exact ⟨h.sound.sessions, h.sound.carriers, h.sound.numbers, h.sound.nextId⟩
  · rw [hl, hs]
    intro i l hi
    have hf := h.fits i l hi
    exact ⟨hf.number, hf.linked, hf.unlinked, hf.held, hf.unheld, hf.closing⟩
  · rw [hl]
    exact h.connections
  · rw [hlist, List.nodup_append]
    refine ⟨h.sockets, List.nodup_singleton _, ?_⟩
    intro a ha b hb he
    rw [List.mem_singleton] at hb
    have := h.inRange a ha
    rw [he, hb] at this
    omega
  · rw [hlist, hlen]
    intro other hm
    rcases List.mem_append.mp hm with hm | hm
    · have := h.inRange other hm
      omega
    · rw [List.mem_singleton] at hm
      subst hm
      omega
  · rw [hs, hl]
    exact h.carried

lemma arrival (h : s.Valid) {socket : SocketId} (hn : socket.number = s.shared.sockets.length)
    (hs : s'.shared = { s.shared with sockets := s.shared.sockets ++ [.fresh] })
    (hw : s'.loops = s.loops ++ [.start socket] ∧ s'.backlog = s.backlog ∨
      s'.loops = s.loops ∧ s'.backlog = s.backlog ++ [socket]) : s'.Valid := by
  rcases hw with ⟨hl, hb⟩ | ⟨hl, hb⟩
  · have hwaits : Valid { s' with loops := s.loops, backlog := s.backlog ++ [socket] } :=
      h.arrives hn hs rfl rfl
    apply hwaits.starts hl rfl
    rw [hl, hb, List.map_append, List.append_assoc]
    exact (List.perm_append_comm).append_left _
  · exact h.arrives hn hs hl hb

/-! ## Loops that move -/

lemma getElem?_set_cases {α : Type} {xs : List α} {i j : Nat} {a b : α}
    (h : (xs.set i a)[j]? = some b) : j = i ∧ b = a ∨ j ≠ i ∧ xs[j]? = some b := by
  by_cases hj : j = i
  · subst hj
    have hlt : j < xs.length := by
      have := (List.getElem?_eq_some_iff.mp h).1
      rwa [List.length_set] at this
    rw [List.getElem?_set_self hlt] at h
    exact .inl ⟨rfl, (Option.some.inj h).symm⟩
  · rw [List.getElem?_set_ne (Ne.symm hj)] at h
    exact .inr ⟨hj, h⟩

lemma map_socket_set {loops : List Loop} {i : Nat} {l l' : Loop} (hl : loops[i]? = some l)
    (hs : l'.socket = l.socket) : (loops.set i l').map (·.socket) = loops.map (·.socket) := by
  refine List.ext_getElem? fun j => ?_
  rw [List.getElem?_map, List.getElem?_map, List.getElem?_set]
  by_cases hj : i = j
  · subst hj
    have hlt := (List.getElem?_eq_some_iff.mp hl).1
    rw [if_pos rfl, if_pos hlt, hl, Option.map_some, Option.map_some, hs]
  · simp [hj]

/-- What is to be shown of the step of one loop: the tables stay in order, the loop fits to them
behind its step as the other loops do, its connection is its own, and a registered session is the
one it held before and holds still, or one that it holds from now on, or another loop's. -/
lemma moved (h : s.Valid) {i : Nat} {l l' : Loop} (hi : s.loops[i]? = some l)
    (hl : s'.loops = s.loops.set i l') (hb : s'.backlog = s.backlog)
    (hsound : s'.shared.Sound) (hlen : s'.shared.sockets.length = s.shared.sockets.length)
    (hsocket : l'.socket = l.socket)
    (hcon : l'.connection = l.connection ∨ s.shared.table.nextId ≤ l'.connection.number)
    (hfits : l'.Fits s'.shared)
    (hothers : ∀ m : Loop, m.Fits s.shared →
      (1 ≤ m.connection.number → m.connection ≠ l.connection) → m.Fits s'.shared)
    (hcarried : ∀ session ∈ s'.shared.sessions.list,
      l'.phase.isServing ∧ l'.held = some session ∨ session ∈ s.shared.sessions.list ∧
        (l.phase.isServing → l.held = some session →
          l'.phase.isServing ∧ l'.held = some session)) : s'.Valid := by
  have hlt : i < s.loops.length := (List.getElem?_eq_some_iff.mp hi).1
  have hself : s'.loops[i]? = some l' := by rw [hl, List.getElem?_set_self hlt]
  have hlist : s'.loops.map (·.socket) ++ s'.backlog = s.loops.map (·.socket) ++ s.backlog := by
    rw [hl, hb, map_socket_set hi hsocket]
  have hown : ∀ j m, j ≠ i → s.loops[j]? = some m → 1 ≤ m.connection.number →
      m.connection ≠ l'.connection := by
    intro j m hj hm hn he
    rcases hcon with hc | hc
    · exact hj (h.connections j i m l hm hi (he.trans hc) hn)
    · have := (h.fits j m hm).number
      rw [he] at this
      omega
  refine ⟨hsound, ?_, ?_, ?_, ?_, ?_⟩
  · rw [hl]
    intro j m hm
    rcases getElem?_set_cases hm with ⟨-, rfl⟩ | ⟨hj, hm⟩
    · exact hfits
    · refine hothers m (h.fits j m hm) fun hn he => ?_
      exact hj (h.connections j i m l hm hi he hn)
  · rw [hl]
    intro j k m n hm hn he hpos
    rcases getElem?_set_cases hm with ⟨rfl, rfl⟩ | ⟨hj, hm'⟩
    · rcases getElem?_set_cases hn with ⟨rfl, -⟩ | ⟨hk, hn'⟩
      · rfl
      · exact absurd he.symm (hown k n hk hn' (he ▸ hpos))
    · rcases getElem?_set_cases hn with ⟨rfl, rfl⟩ | ⟨hk, hn'⟩
      · exact absurd he (hown j m hj hm' hpos)
      · exact h.connections j k m n hm' hn' he hpos
  · rw [hlist]
    exact h.sockets
  · rw [hlist, hlen]
    exact h.inRange
  · intro session hm
    rcases hcarried session hm with hnow | ⟨hold, hkept⟩
    · exact ⟨i, l', hself, hnow⟩
    · obtain ⟨j, m, hj, hserving, hheld⟩ := h.carried session hold
      by_cases hji : j = i
      · subst hji
        obtain rfl := Option.some.inj (hi.symm.trans hj)
        exact ⟨j, l', hself, hkept hserving hheld⟩
      · exact ⟨j, m, by rw [hl, List.getElem?_set_ne (Ne.symm hji)]; exact hj, hserving, hheld⟩

/-- A step that opens and registers nothing. -/
lemma moved_persists (h : s.Valid) {i : Nat} {l l' : Loop} (hi : s.loops[i]? = some l)
    (hl : s'.loops = s.loops.set i l') (hb : s'.backlog = s.backlog)
    (hp : s.shared.Persists s'.shared) (hsocket : l'.socket = l.socket)
    (hcon : l'.connection = l.connection) (hfits : l'.Fits s'.shared)
    (hcarried : ∀ session ∈ s'.shared.sessions.list, l.phase.isServing → l.held = some session →
      l'.phase.isServing ∧ l'.held = some session) : s'.Valid :=
  h.moved hi hl hb (h.sound.persists hp) hp.sockets hsocket (.inl hcon) hfits
    (fun _ hm _ => hm.persists hp)
    fun session hm => .inr ⟨hp.sessions.list hm, hcarried session hm⟩

end Running.Valid

/-! ## Connections that open and close -/

lemma Shared.carriers_register (s : Shared μ) (socket : SocketId) :
    carriers { s with table := (s.table.register socket).1 } =
      s.carriers ++ [(⟨s.table.nextId⟩, socket)] := by
  simp [carriers, Connection.Table.register]

lemma Shared.mem_carriers_unregister (s : Shared μ) (id connection : ConnectionId)
    (socket : SocketId) :
    (connection, socket) ∈ carriers { s with table := s.table.unregister id } ↔
      (connection, socket) ∈ s.carriers ∧ connection ≠ id := by
  simp only [carriers, Connection.Table.unregister, List.mem_map, List.mem_filter, bne_iff_ne,
    Prod.mk.injEq]
  constructor
  · rintro ⟨link, ⟨hm, hn⟩, rfl, rfl⟩
    exact ⟨⟨link, hm, rfl, rfl⟩, hn⟩
  · rintro ⟨⟨link, hm, rfl, rfl⟩, hn⟩
    exact ⟨link, ⟨hm, hn⟩, rfl, rfl⟩

lemma Shared.Sound.register {s : Shared μ} (h : s.Sound) (socket : SocketId) :
    Sound { s with table := (s.table.register socket).1 } := by
  refine ⟨h.sessions, ?_, ?_, Nat.le_succ_of_le h.nextId⟩
  · rw [carriers_register, List.map_append, List.nodup_append]
    refine ⟨h.carriers, List.nodup_singleton _, ?_⟩
    intro a ha b hb he
    obtain ⟨⟨connection, other⟩, hm, rfl⟩ := List.mem_map.mp ha
    have hlt := (h.numbers connection other hm).2
    have hnext : connection = ⟨s.table.nextId⟩ := he.trans (List.mem_singleton.mp hb)
    rw [hnext] at hlt
    exact Nat.lt_irrefl _ hlt
  · rw [carriers_register]
    intro connection other hm
    rcases List.mem_append.mp hm with hm | hm
    · exact ⟨(h.numbers _ _ hm).1, Nat.lt_succ_of_lt (h.numbers _ _ hm).2⟩
    · obtain ⟨rfl, rfl⟩ := Prod.mk.inj (List.mem_singleton.mp hm)
      exact ⟨h.nextId, Nat.lt_succ_self _⟩

lemma Shared.Sound.unregister {s : Shared μ} (h : s.Sound) (id : ConnectionId) :
    Sound { s with table := s.table.unregister id } := by
  refine ⟨h.sessions, ?_, ?_, h.nextId⟩
  · exact h.carriers.sublist ((List.filter_sublist.map _).map _)
  · exact fun connection socket hm =>
      h.numbers connection socket ((mem_carriers_unregister s id _ _).mp hm).1

lemma Loop.Fits.register {l : Loop} {s : Shared μ} (h : l.Fits s) (socket : SocketId) :
    l.Fits { s with table := (s.table.register socket).1 } := by
  refine ⟨Nat.lt_succ_of_lt h.number, ?_, ?_, h.held, h.unheld, h.closing⟩
  · intro hl
    rw [Shared.carriers_register]
    exact List.mem_append_left _ (h.linked hl)
  · intro hl other hm
    rw [Shared.carriers_register] at hm
    rcases List.mem_append.mp hm with hm | hm
    · exact h.unlinked hl other hm
    · have hlt := h.number
      rw [(Prod.mk.inj (List.mem_singleton.mp hm)).1] at hlt
      exact Nat.lt_irrefl _ hlt

lemma Loop.Fits.unregister {l : Loop} {s : Shared μ} (hs : s.Sound) (h : l.Fits s)
    {id : ConnectionId} (hn : 1 ≤ l.connection.number → l.connection ≠ id) :
    l.Fits { s with table := s.table.unregister id } := by
  refine ⟨h.number, ?_, ?_, h.held, h.unheld, h.closing⟩
  · intro hl
    have hm := h.linked hl
    exact (Shared.mem_carriers_unregister s id _ _).mpr ⟨hm, hn (hs.numbers _ _ hm).1⟩
  · exact fun hl other hm => h.unlinked hl other ((Shared.mem_carriers_unregister s id _ _).mp hm).1

/-! ## Sessions that are registered -/

lemma Shared.Sound.registers {s : Shared μ} (h : s.Sound) {sessions : Session.Registry}
    {session : Session.Ref} {record : Session.Record}
    (hr : s.sessions.Registers sessions session record) : Sound { s with sessions } :=
  ⟨hr.coherent h.sessions, h.carriers, h.numbers, h.nextId⟩

lemma Loop.Fits.registers {l : Loop} {s : Shared μ} (h : l.Fits s) {sessions : Session.Registry}
    {session : Session.Ref} {record : Session.Record}
    (hr : s.sessions.Registers sessions session record) : l.Fits { s with sessions } := by
  refine ⟨h.number, h.linked, h.unlinked, ?_, h.unheld, h.closing⟩
  intro other ho
  obtain ⟨hlt, hc⟩ := h.held other ho
  refine ⟨?_, ?_⟩
  · simp only [hr.records, List.length_append]
    omega
  · rw [hr.record_of_lt hlt]
    exact hc

/-- Closing a session goes on with that session or with none. -/
lemma Closing.yields_session? (c : Closing) :
    Yields (fun next => ∀ session, next.session? = some session → c.session? = some session)
      (c.step : Action (Shared μ) Closing) := by
  cases c with
  | mark _ => exact Yields.bind fun _ => Yields.pure fun _ h => h
  | take _ =>
    refine Yields.bind fun found => ?_
    split
    · exact Yields.pure fun _ h => nomatch h
    · exact Yields.pure fun _ h => nomatch h
  | cancel _ => exact Yields.bind fun _ => Yields.pure fun _ h => nomatch h
  | join delivery =>
    refine Yields.bind fun s => ?_
    split
    · exact Yields.pure fun _ h => nomatch h
    · exact Yields.pure fun _ h => nomatch h
  | done => exact Yields.pure fun _ h => nomatch h

/-! ## Every step of a loop -/

/-- A loop that goes on to a phase in which its connection is open if it was. -/
lemma Loop.Fits.goTo {l : Loop} {s : Shared μ} {phase : Phase} (h : l.Fits s)
    (hl : phase.isLinked = l.phase.isLinked) (hh : (l.goTo phase).held = l.held)
    (hr : phase ≠ .registering)
    (hc : ∀ reason session rest, phase = .closing reason session rest →
      l.own = some session ∧ ∀ other, rest.session? = some other → other = session) :
    (l.goTo phase).Fits s := by
  refine ⟨h.number, ?_, ?_, ?_, fun he => absurd he hr, hc⟩
  · intro hp
    exact h.linked (hl ▸ hp)
  · intro hp
    exact h.unlinked (hl ▸ hp)
  · rw [hh]
    exact h.held

namespace Running.Valid

variable {s s' : Running μ} {env : Environment} {i size : Nat} {l : Loop}

/-- A step that leads to a phase of the same standing, in which nothing is carried. -/
lemma moved_goTo (h : s.Valid) (hi : s.loops[i]? = some l) {phase : Phase}
    (hl : s'.loops = s.loops.set i (l.goTo phase)) (hb : s'.backlog = s.backlog)
    (hp : s.shared.Persists s'.shared) (hfits : (l.goTo phase).Fits s.shared)
    (hidle : ∀ session ∈ s'.shared.sessions.list, l.phase.isServing → l.held ≠ some session) :
    s'.Valid :=
  h.moved_persists hi hl hb hp rfl rfl (hfits.persists hp)
    fun session hm hs hh => absurd hh (hidle session hm hs)

lemma unregisters (h : s.Valid) (hi : s.loops[i]? = some l) {phase : Phase}
    (hl : s'.loops = s.loops.set i (l.goTo phase)) (hb : s'.backlog = s.backlog)
    (hs : s'.shared = { s.shared with table := s.shared.table.unregister l.connection })
    (hidle : l.phase.isServing = false) (hp : phase = .dropping ∨ phase = .releasing)
    (hheld : l.held = l.own) : s'.Valid := by
  have hf := h.fits i l hi
  have hlinked : phase.isLinked = false := by rcases hp with rfl | rfl <;> rfl
  have hheld' : (l.goTo phase).held = l.held := by
    rw [hheld]
    rcases hp with rfl | rfl <;> rfl
  have hfits : (l.goTo phase).Fits s'.shared := by
    rw [hs]
    refine ⟨hf.number, ?_, ?_, ?_, ?_, ?_⟩
    · intro hc
      exact absurd (hlinked.symm.trans hc) Bool.false_ne_true
    · intro _ socket hm
      exact ((Shared.mem_carriers_unregister _ _ _ _).mp hm).2 rfl
    · rw [hheld']
      exact hf.held
    · intro hc
      rcases hp with rfl | rfl <;> cases hc
    · intro _ _ _ hc
      rcases hp with rfl | rfl <;> cases hc
  refine h.moved hi hl hb (hs ▸ h.sound.unregister _) (by rw [hs]) rfl (.inl rfl) hfits
    (fun m hm hn => hs ▸ hm.unregister h.sound hn) ?_
  intro session hm
  rw [hs] at hm
  exact .inr ⟨hm, fun hc => absurd hc (by simp [hidle])⟩

variable [Device.DeviceModule μ]

lemma step_registering (h : s.Valid) (hi : s.loops[i]? = some l) (hp : l.phase = .registering)
    (hl : s'.loops = s.loops.set i (l.step env size s.shared).value) (hb : s'.backlog = s.backlog)
    (hs : s'.shared = (l.step env size s.shared).state) : s'.Valid := by
  have hf := h.fits i l hi
  have hheld : l.held = none := by simp [Loop.held, hp, hf.unheld hp]
  have hidle : ¬l.phase.isServing := by simp [hp, Phase.isServing]
  cases he : env.socketFault with
  | some detail =>
    rw [Loop.step_registering_fault hp he] at hl hs
    refine h.moved_goTo hi hl hb (hs ▸ Std.Refl.refl _) ?_ fun _ _ hc => absurd hc hidle
    refine hf.goTo (by rw [hp]; rfl) ?_ Phase.noConfusion fun _ _ _ hc => Phase.noConfusion hc
    rw [hheld]
    exact hf.unheld hp
  | none =>
    rw [Loop.step_registering hp he] at hl hs
    have hfits : ({ l with connection := ⟨s.shared.table.nextId⟩, phase := .preparing } :
        Loop).Fits s'.shared := by
      rw [hs]
      refine ⟨Nat.lt_succ_self _, ?_, (fun hc => by cases hc), ?_, fun _ => hf.unheld hp,
        (fun _ _ _ hc => Phase.noConfusion hc)⟩
      · intro _
        rw [Shared.carriers_register]
        exact List.mem_append_right _ (List.mem_singleton_self _)
      · intro session hc
        exact absurd (hc.symm.trans (hf.unheld hp)) (Option.some_ne_none _)
    refine h.moved hi hl hb (hs ▸ h.sound.register l.socket) (by rw [hs]) rfl
      (.inr (Nat.le_refl _)) hfits (fun m hm _ => hs ▸ hm.register l.socket) ?_
    intro session hm
    rw [hs] at hm
    exact .inr ⟨hm, fun hc => absurd hc hidle⟩

lemma step_greeting (h : s.Valid) (hi : s.loops[i]? = some l) {hello : Protocol.Hello}
    (hp : l.phase = .greeting hello)
    (hl : s'.loops = s.loops.set i (l.step env size s.shared).value) (hb : s'.backlog = s.backlog)
    (hs : s'.shared = (l.step env size s.shared).state) : s'.Valid := by
  have hf := h.fits i l hi
  have hheld : l.held = l.own := by simp [Loop.held, hp]
  have hserving : l.phase.isServing := by rw [hp]; rfl
  rcases Loop.step_greeting env size s.shared hp with
    ⟨error, he⟩ | ⟨session, sessions, journal, he, hr⟩
  · rw [he] at hl hs
    have hserves : Loop.Serves l (l.goTo (.answering (.ofError error.toError))) :=
      Loop.serves_goTo l rfl fun _ => Phase.noConfusion
    refine h.moved_persists hi hl hb (hs ▸ Std.Refl.refl _) rfl rfl ?_ ?_
    · rw [hs]
      exact hf.serves hserving hheld hserves
    · intro other _ _ ho
      exact ⟨rfl, by rw [hserves.held, hserves.own, ← hheld]; exact ho⟩
  · rw [he] at hl hs
    have hfits : (l.goTo (.opened session)).Fits s'.shared := by
      rw [hs]
      refine ⟨hf.number, fun _ => hf.linked (by rw [hp]; rfl), (fun hc => by cases hc), ?_,
        Phase.noConfusion, (fun _ _ _ hc => Phase.noConfusion hc)⟩
      intro other ho
      obtain rfl : session = other := Option.some.inj ho
      refine ⟨?_, by rw [hr.record_self]; rfl⟩
      simp [hr.records, hr.number]
    refine h.moved hi hl hb (hs ▸ h.sound.registers hr) (by rw [hs]) rfl (.inl rfl) hfits
      (fun m hm _ => hs ▸ hm.registers hr) ?_
    intro other hm
    rw [hs] at hm
    rcases hr.mem_list.mp hm with rfl | hold
    · exact .inl ⟨rfl, rfl⟩
    · refine .inr ⟨hold, fun _ ho => ?_⟩
      -- An earlier session of the loop that is still registered would occupy the connection.
      have hc := (hf.held other ho).2
      have hm' := h.sound.sessions.mem_list.mp hold
      exact absurd ((h.sound.sessions.paired _ _).mpr ⟨other, hm', hc⟩) (hr.free _)

lemma step_opened (h : s.Valid) (hi : s.loops[i]? = some l) {session : Session.Ref}
    (hp : l.phase = .opened session)
    (hl : s'.loops = s.loops.set i (l.step env size s.shared).value) (hb : s'.backlog = s.backlog)
    (hs : s'.shared = (l.step env size s.shared).state) : s'.Valid := by
  have hf := h.fits i l hi
  have hheld : l.held = some session := by simp [Loop.held, hp]
  rw [Loop.step_opened hp] at hl hs
  refine h.moved_persists hi hl hb (hs ▸ Std.Refl.refl _) rfl rfl ?_ ?_
  · rw [hs]
    refine ⟨hf.number, fun _ => hf.linked (by rw [hp]; rfl), (fun hc => by cases hc), ?_,
      Phase.noConfusion, (fun _ _ _ hc => Phase.noConfusion hc)⟩
    intro other ho
    exact hf.held other (hheld.trans ho)
  · intro other _ _ ho
    exact ⟨rfl, hheld.symm.trans ho⟩

lemma step_removing (h : s.Valid) (hi : s.loops[i]? = some l) {reason : ExitReason}
    (hp : l.phase = .removing reason)
    (hl : s'.loops = s.loops.set i (l.step env size s.shared).value) (hb : s'.backlog = s.backlog)
    (hs : s'.shared = (l.step env size s.shared).state) : s'.Valid := by
  have hf := h.fits i l hi
  have hheld : l.held = l.own := by simp [Loop.held, hp]
  cases ho : l.own with
  | none =>
    rw [Loop.step_removing_none hp ho] at hl hs
    refine h.moved_goTo hi hl hb (hs ▸ Std.Refl.refl _) ?_ ?_
    · exact hf.goTo (by rw [hp]; rfl) (by rw [hheld]; rfl) Phase.noConfusion
        (fun _ _ _ hc => Phase.noConfusion hc)
    · intro session _ _ hc
      exact Option.some_ne_none session (by rw [← hc, hheld, ho])
  | some own =>
    rw [Loop.step_removing hp ho] at hl hs
    have hnot := Session.Registry.not_mem_detachRef h.sound.sessions own
    refine h.moved_goTo hi hl hb ?_ ?_ ?_
    · rw [hs]
      exact (Shared.follows_sessions _ (s.shared.sessions.narrows_detachRef own)).toPersists
    · split
      · apply hf.goTo (by rw [hp]; rfl) (by rw [hheld]; rfl) Phase.noConfusion
        intro _ session rest hc
        obtain ⟨-, rfl, rfl⟩ := Phase.closing.inj hc
        exact ⟨ho, fun other he => (Option.some.inj he).symm⟩
      · exact hf.goTo (by rw [hp]; rfl) (by rw [hheld]; rfl) Phase.noConfusion
          (fun _ _ _ hc => Phase.noConfusion hc)
    · intro session hm _ hc
      rw [hs] at hm
      rw [hheld, ho] at hc
      exact hnot (Option.some.inj hc ▸ hm)

lemma step_closing (h : s.Valid) (hi : s.loops[i]? = some l) {reason : ExitReason}
    {session : Session.Ref} {rest : Closing} (hp : l.phase = .closing reason session rest)
    (hl : s'.loops = s.loops.set i (l.step env size s.shared).value) (hb : s'.backlog = s.backlog)
    (hs : s'.shared = (l.step env size s.shared).state) : s'.Valid := by
  have hf := h.fits i l hi
  have hheld : l.held = l.own := by simp [Loop.held, hp]
  have hidle : ¬l.phase.isServing := by simp [hp, Phase.isServing]
  by_cases hd : rest = .done
  · subst hd
    obtain ⟨journal, he⟩ := Loop.step_closing_done env size s.shared hp
    rw [he] at hl hs
    refine h.moved_goTo hi hl hb (hs ▸ Std.Refl.refl _) ?_ fun _ _ hc => absurd hc hidle
    exact hf.goTo (by rw [hp]; rfl) (by rw [hheld]; rfl) Phase.noConfusion
      (fun _ _ _ hc => Phase.noConfusion hc)
  · obtain ⟨journal, he⟩ := Loop.step_closing env size s.shared hp hd
    rw [he] at hl hs
    refine h.moved_goTo hi hl hb (hs ▸ (Closing.keeps_step rest s.shared).toPersists) ?_
      fun _ _ hc => absurd hc hidle
    apply hf.goTo (by rw [hp]; rfl) (by rw [hheld]; rfl) Phase.noConfusion
    intro _ other next hc
    obtain ⟨-, rfl, rfl⟩ := Phase.closing.inj hc
    obtain ⟨hown, hnames⟩ := hf.closing _ _ _ hp
    exact ⟨hown, fun other ho => hnames other (rest.yields_session? s.shared other ho)⟩

/-- The step of any loop. -/
lemma stepped (h : s.Valid) (hi : s.loops[i]? = some l)
    (hl : s'.loops = s.loops.set i (l.step env size s.shared).value) (hb : s'.backlog = s.backlog)
    (hs : s'.shared = (l.step env size s.shared).state) : s'.Valid := by
  have hf := h.fits i l hi
  by_cases hplain : l.phase.isPlain
  · have hserves := Loop.serves_step env size s.shared hplain
    have hpersists := Loop.persists_of_isPlain env size s.shared hplain
    have hserving := Phase.isServing_of_isPlain hplain
    have hheld : l.held = l.own := Loop.held_of_isPlain hplain
    rw [← hs] at hpersists
    refine h.moved_persists hi hl hb hpersists hserves.socket hserves.connection
      ((hf.serves hserving hheld hserves).persists hpersists) ?_
    intro session _ _ ho
    exact ⟨hserves.serving, by rw [hserves.held, hserves.own, ← hheld]; exact ho⟩
  have hheld : (∀ session, l.phase ≠ .opened session) → l.held = l.own := Loop.held_of_ne
  cases hp : l.phase with
  | registering => exact h.step_registering hi hp hl hb hs
  | greeting hello => exact h.step_greeting hi hp hl hb hs
  | opened session => exact h.step_opened hi hp hl hb hs
  | removing reason => exact h.step_removing hi hp hl hb hs
  | closing reason session rest => exact h.step_closing hi hp hl hb hs
  | preparing =>
    rw [Loop.step_preparing hp] at hl hs
    have hidle : ¬l.phase.isServing := by simp [hp, Phase.isServing]
    refine h.moved_goTo hi hl hb (hs ▸ Std.Refl.refl _) ?_ fun _ _ hc => absurd hc hidle
    have hh := hheld fun _ hc => Phase.noConfusion (hp.symm.trans hc)
    split
    · exact hf.goTo (by rw [hp]; rfl) (by rw [hh]; rfl) Phase.noConfusion
        (fun _ _ _ hc => Phase.noConfusion hc)
    · exact hf.goTo (by rw [hp]; rfl) (by rw [hh]; rfl) Phase.noConfusion
        (fun _ _ _ hc => Phase.noConfusion hc)
  | abandoning =>
    rw [Loop.step_abandoning hp] at hl hs
    exact h.unregisters hi hl hb hs (by rw [hp]; rfl) (.inl rfl)
      (hheld fun _ hc => Phase.noConfusion (hp.symm.trans hc))
  | dropping =>
    rw [Loop.step_dropping hp] at hl hs
    have hidle : ¬l.phase.isServing := by simp [hp, Phase.isServing]
    have hh := hheld fun _ hc => Phase.noConfusion (hp.symm.trans hc)
    refine h.moved_goTo hi hl hb (hs ▸ (Shared.keeps_shut _ s.shared).toPersists) ?_
      fun _ _ hc => absurd hc hidle
    exact hf.goTo (by rw [hp]; rfl) (by rw [hh]; rfl) Phase.noConfusion
      (fun _ _ _ hc => Phase.noConfusion hc)
  | reportClosed reason session =>
    obtain ⟨journal, he⟩ := Loop.step_reportClosed env size s.shared hp
    rw [he] at hl hs
    have hidle : ¬l.phase.isServing := by simp [hp, Phase.isServing]
    have hh := hheld fun _ hc => Phase.noConfusion (hp.symm.trans hc)
    refine h.moved_goTo hi hl hb (hs ▸ Std.Refl.refl _) ?_ fun _ _ hc => absurd hc hidle
    exact hf.goTo (by rw [hp]; rfl) (by rw [hh]; rfl) Phase.noConfusion
      (fun _ _ _ hc => Phase.noConfusion hc)
  | unregistering =>
    rw [Loop.step_unregistering hp] at hl hs
    exact h.unregisters hi hl hb hs (by rw [hp]; rfl) (.inr rfl)
      (hheld fun _ hc => Phase.noConfusion (hp.symm.trans hc))
  | releasing =>
    obtain ⟨deliveries, he⟩ := Loop.step_releasing env size s.shared hp
    rw [he] at hl hs
    have hidle : ¬l.phase.isServing := by simp [hp, Phase.isServing]
    have hh := hheld fun _ hc => Phase.noConfusion (hp.symm.trans hc)
    have hpersists : s.shared.Persists s'.shared := by
      rw [hs]
      exact Shared.Follows.toPersists (Shared.follows_of_same rfl rfl rfl)
    refine h.moved_goTo hi hl hb hpersists ?_ fun _ _ hc => absurd hc hidle
    exact hf.goTo (by rw [hp]; rfl) (by rw [hh]; rfl) Phase.noConfusion
      (fun _ _ _ hc => Phase.noConfusion hc)
  | ended =>
    rw [Loop.step_ended hp] at hl hs
    have hidle : ¬l.phase.isServing := by simp [hp, Phase.isServing]
    exact h.moved_persists hi hl hb (hs ▸ Std.Refl.refl _) rfl rfl (hs ▸ hf)
      fun _ _ hc => absurd hc hidle
  | _ => simp [hp, Phase.isPlain, Phase.isServing] at hplain

lemma turn (h : s.Valid) (t : Turn μ) : (Turn.act s t).Valid := by
  rcases t.effect s with hs | ⟨socket, hn, hs, hw⟩ | ⟨socket, hb, hl, hs⟩ |
    ⟨env, index, size, l, -, hi, hl, hb, hs⟩
  · exact h.steady hs
  · exact h.arrival hn hs hw
  · apply h.starts hl hs
    rw [hl, hb, List.map_append, List.append_assoc]
    exact List.Perm.refl _
  · exact h.stepped hi hl hb hs

lemma after (h : s.Valid) (turns : List (Turn μ)) : (s.after turns).Valid := by
  induction turns generalizing s with
  | nil => exact h
  | cons t rest ih => exact ih (h.turn t)

end Running.Valid

end ManagementServer.Server
