import ManagementServer.Device.Scripted
import ManagementServer.Proofs.Validity

/-!
# Sessions and the connections that carry them

What holds of the sessions, the connections and the loops of a server at any time
(`Running.Carriage`), whatever the peers send, whoever kills whose session, and in whichever order
the threads move: `carriage_after`.
-/

namespace ManagementServer.Server

variable {μ : Type}

/-! ## Looking connections up -/

lemma Shared.Sound.find?_of_mem {s : Shared μ} (h : s.Sound) {connection : ConnectionId}
    {socket : SocketId} (hm : (connection, socket) ∈ s.carriers) :
    ∃ link, s.table.find? connection = some link ∧ link.socket = socket := by
  obtain ⟨link, hl, he⟩ := List.mem_map.mp hm
  obtain ⟨rfl, rfl⟩ := Prod.mk.inj he
  cases hf : s.table.find? link.id with
  | none =>
    have := List.find?_eq_none.mp hf link hl
    simp at this
  | some found =>
    have hid : found.id = link.id := by simpa using List.find?_some hf
    have hfound : (found.id, found.socket) ∈ s.carriers :=
      List.mem_map.mpr ⟨found, List.mem_of_find?_eq_some hf, rfl⟩
    rw [hid] at hfound
    refine ⟨found, rfl, ?_⟩
    have h₁ := (Session.Registry.lookup_eq_some_iff_mem h.carriers).mpr hfound
    have h₂ := (Session.Registry.lookup_eq_some_iff_mem h.carriers).mpr hm
    exact Option.some.inj (h₁.symm.trans h₂)

lemma Shared.find?_eq_none {s : Shared μ} {connection : ConnectionId}
    (h : ∀ socket, (connection, socket) ∉ s.carriers) : s.table.find? connection = none := by
  refine List.find?_eq_none.mpr fun link hl he => ?_
  have hid : link.id = connection := by simpa using he
  exact h link.socket (List.mem_map.mpr ⟨link, hl, by rw [hid]⟩)

/-! ## Taking a connection down -/

/-- What belongs to other connections stays as it is: their sessions, registered or not, their
entries in the table, and their sockets. -/
structure Shared.Spares (connection : ConnectionId) (socket : SocketId) (s s' : Shared μ) :
    Prop where
  registered : ∀ session, (s.sessions.record session).connection ≠ connection →
    (session ∈ s'.sessions.list ↔ session ∈ s.sessions.list)
  records : ∀ session, (s.sessions.record session).connection ≠ connection →
    s'.sessions.record session = s.sessions.record session
  links : ∀ link : Connection.Link, link.id ≠ connection →
    (link ∈ s'.table.links ↔ link ∈ s.table.links)
  sockets : ∀ other, other ≠ socket → s'.socket other = s.socket other

namespace Shared

variable {connection : ConnectionId} {socket : SocketId} {s : Shared μ}

lemma spares_of_same {s' : Shared μ} (hs : s'.sessions = s.sessions) (ht : s'.table = s.table)
    (hk : s'.sockets = s.sockets) : Spares connection socket s s' := by
  refine ⟨fun _ _ => ?_, fun _ _ => ?_, fun _ _ => ?_, fun _ _ => ?_⟩
  · rw [hs]
  · rw [hs]
  · rw [ht]
  · rw [Shared.socket, Shared.socket, hk]

lemma spares_update (ref : Session.Ref) (f : Session.Record → Session.Record)
    (h : (s.sessions.record ref).connection = connection) :
    Spares connection socket s { s with sessions := s.sessions.update ref f } := by
  refine ⟨fun _ _ => Iff.rfl, fun session hn => ?_, fun _ _ => Iff.rfl, fun _ _ => rfl⟩
  apply Session.Registry.record_update_of_ne s.sessions f
  rintro rfl
  exact hn h

lemma spares_shut (socket : SocketId) :
    Spares connection socket s ((shut socket : Action (Shared μ) Unit) s).state := by
  refine ⟨fun _ _ => Iff.rfl, fun _ _ => rfl, fun _ _ => Iff.rfl, fun other hn => ?_⟩
  refine (socket_modify s socket other _).trans (if_neg ?_)
  exact fun hc => hn hc.1.symm

lemma spares_detachRef (hs : s.sessions.Coherent) (ref : Session.Ref)
    (h : (s.sessions.record ref).connection = connection) :
    Spares connection socket s { s with sessions := (s.sessions.detachRef ref).1 } := by
  have hrecords : ∀ session, (s.sessions.detachRef ref).1.record session =
      s.sessions.record session := by
    intro session
    unfold Session.Registry.detachRef
    dsimp only
    split
    · rfl
    · rfl
  refine ⟨fun session hn => ?_, fun session _ => hrecords session, fun _ _ => Iff.rfl,
    fun _ _ => rfl⟩
  apply Session.Registry.mem_list_detachRef hs
  rintro rfl
  exact hn h

lemma spares_unregister :
    Spares connection socket s { s with table := s.table.unregister connection } := by
  refine ⟨fun _ _ => Iff.rfl, fun _ _ => rfl, fun link hn => ?_, fun _ _ => rfl⟩
  simp [Connection.Table.unregister, hn]

/-- Closing a session changes that session and no other. -/
lemma spares_closing (rest : Closing)
    (h : ∀ session, rest.session? = some session →
      (s.sessions.record session).connection = connection) :
    Spares connection socket s (rest.step s).state := by
  cases rest with
  | mark session => exact spares_update session _ (h session rfl)
  | take session =>
    have hstate : ((Closing.take session).step s).state =
        { s with sessions := (s.sessions.takeSubscription session).1 } := by
      simp only [Closing.step, Action.bind_apply, changeSessions]
      cases (s.sessions.takeSubscription session).2 with
      | none => rfl
      | some delivery => rfl
    rw [hstate]
    exact spares_update session _ (h session rfl)
  | cancel delivery => exact spares_of_same rfl rfl rfl
  | join delivery =>
    have hstate : ((Closing.join delivery).step s).state = s := by
      by_cases hf : s.isFinished delivery
      · simp [Closing.step, hf]
      · simp [Closing.step, hf]
    rw [hstate]
    exact spares_of_same rfl rfl rfl
  | done => exact spares_of_same rfl rfl rfl

end Shared

/-- The steps that take a connection down touch nothing of the others. -/
lemma Loop.Fits.spares_step [Device.DeviceModule μ] {l : Loop} {s : Shared μ} (h : l.Fits s)
    (hs : s.Sound) (env : Environment) (size : Nat) (ht : l.phase.isTeardown) :
    s.Spares l.connection l.socket (l.step env size s).state := by
  have hown : (∀ session, l.phase ≠ .opened session) → ∀ session, l.own = some session →
      (s.sessions.record session).connection = l.connection := by
    intro hn session ho
    exact (h.held session ((held_of_ne hn).trans ho)).2
  cases hp : l.phase with
  | terminating reason =>
    rw [step_terminating hp]
    dsimp only
    split
    · rename_i own ho
      refine Shared.spares_update own _ (hown (fun _ hc => ?_) own ho)
      exact Phase.noConfusion (hp.symm.trans hc)
    · exact Shared.spares_of_same rfl rfl rfl
  | shutting reason =>
    rw [step_shutting hp]
    exact Shared.spares_shut l.socket
  | removing reason =>
    cases ho : l.own with
    | none =>
      rw [step_removing_none hp ho]
      exact Shared.spares_of_same rfl rfl rfl
    | some own =>
      rw [step_removing hp ho]
      refine Shared.spares_detachRef hs.sessions own (hown (fun _ hc => ?_) own ho)
      exact Phase.noConfusion (hp.symm.trans hc)
  | closing reason session rest =>
    by_cases hd : rest = .done
    · subst hd
      obtain ⟨journal, he⟩ := step_closing_done env size s hp
      rw [he]
      exact Shared.spares_of_same rfl rfl rfl
    · obtain ⟨journal, he⟩ := step_closing env size s hp hd
      rw [he]
      obtain ⟨ho, hnames⟩ := h.closing reason session rest hp
      refine Shared.spares_closing rest fun other hother => ?_
      rw [hnames other hother]
      exact hown (fun _ hc => Phase.noConfusion (hp.symm.trans hc)) session ho
  | reportClosed reason session =>
    obtain ⟨journal, he⟩ := step_reportClosed env size s hp
    rw [he]
    exact Shared.spares_of_same rfl rfl rfl
  | unregistering =>
    rw [step_unregistering hp]
    exact Shared.spares_unregister
  | releasing =>
    obtain ⟨deliveries, he⟩ := step_releasing env size s hp
    rw [he]
    exact Shared.spares_of_same rfl rfl rfl
  | _ => simp [hp, Phase.isTeardown] at ht

/-! ## Along a run -/

/-- A loop holds a session. Its connection is the session's: it is open, over the loop's own socket,
and no other loop has it. -/
structure Running.Carries (s : Running μ) (i : Nat) (l : Loop) (session : Session.Ref) : Prop where
  loop : s.loops[i]? = some l
  held : l.held = some session
  connection : l.connection = (s.shared.sessions.record session).connection
  found : ∃ link, s.shared.table.find? l.connection = some link ∧ link.socket = l.socket
  only : ∀ (j : Nat) (m : Loop), s.loops[j]? = some m → m.connection = l.connection → j = i

/-- A registered session is carried by an open connection, which has no other, and which finds it;
behind the end of a connection nothing is left of it; and taking a connection down spares the
others. -/
structure Running.Carriage [Device.DeviceModule μ] (s : Running μ) : Prop where
  carried : ∀ session ∈ s.shared.sessions.list, ∃ i l, s.Carries i l session
  found : ∀ session ∈ s.shared.sessions.list,
    s.shared.sessions.getByConnection (s.shared.sessions.record session).connection = .ok session
  single : ∀ a ∈ s.shared.sessions.list, ∀ b ∈ s.shared.sessions.list,
    (s.shared.sessions.record a).connection = (s.shared.sessions.record b).connection → a = b
  forgotten : ∀ (i : Nat) (l : Loop), s.loops[i]? = some l →
    l.phase = .releasing ∨ l.phase = .ended →
      (∀ session ∈ s.shared.sessions.list,
        (s.shared.sessions.record session).connection ≠ l.connection) ∧
      s.shared.table.find? l.connection = none
  spared : ∀ (env : Environment) (i size : Nat) (l : Loop), s.loops[i]? = some l →
    l.phase.isTeardown →
      s.shared.Spares l.connection l.socket (Turn.act s (.move env (.loop i size))).shared

namespace Running.Valid

variable {s : Running μ}

lemma carries (h : s.Valid) {session : Session.Ref} (hm : session ∈ s.shared.sessions.list) :
    ∃ i l, s.Carries i l session := by
  obtain ⟨i, l, hi, hserving, hheld⟩ := h.carried session hm
  have hf := h.fits i l hi
  have hlinked := hf.linked (Phase.isLinked_of_isServing hserving)
  have hpos := (h.sound.numbers _ _ hlinked).1
  refine ⟨i, l, hi, hheld, (hf.held session hheld).2.symm, h.sound.find?_of_mem hlinked, ?_⟩
  intro j m hj he
  exact h.connections j i m l hj hi he (he ▸ hpos)

lemma getByConnection (h : s.Valid) {session : Session.Ref}
    (hm : session ∈ s.shared.sessions.list) :
    s.shared.sessions.getByConnection (s.shared.sessions.record session).connection =
      .ok session := by
  have hid := h.sound.sessions.mem_list.mp hm
  have hc := (h.sound.sessions.paired _ _).mpr ⟨session, hid, rfl⟩
  have h₁ := (Session.Registry.lookup_eq_some_iff_mem h.sound.sessions.connections).mpr hc
  have h₂ := h.sound.sessions.lookup_iff.mpr hid
  simp [Session.Registry.getByConnection, h₁, h₂]

/-- A loop whose connection is no longer open leaves no session behind. -/
lemma forgets (h : s.Valid) {i : Nat} {l : Loop} (hi : s.loops[i]? = some l)
    (hp : l.phase.isLinked = false) : ∀ session ∈ s.shared.sessions.list,
      (s.shared.sessions.record session).connection ≠ l.connection := by
  intro session hm he
  obtain ⟨j, m, hj, hserving, hheld⟩ := h.carried session hm
  have hf := h.fits j m hj
  have hlinked := hf.linked (Phase.isLinked_of_isServing hserving)
  have hc : m.connection = l.connection := (hf.held session hheld).2.symm.trans he
  exact (h.fits i l hi).unlinked hp m.socket (hc ▸ hlinked)

lemma carriage [Device.DeviceModule μ] (h : s.Valid) : s.Carriage := by
  refine ⟨fun _ => h.carries, fun _ => h.getByConnection, ?_, ?_, ?_⟩
  · exact fun a ha b hb => h.sound.sessions.eq_of_connection ha hb
  · intro i l hi hp
    have hlinked : l.phase.isLinked = false := by rcases hp with hp | hp <;> rw [hp] <;> rfl
    exact ⟨h.forgets hi hlinked, Shared.find?_eq_none ((h.fits i l hi).unlinked hlinked)⟩
  · intro env i size l hi ht
    have hstate : (Turn.act s (.move env (.loop i size))).shared =
        (l.step env size s.shared).state := by
      simp [Turn.act, Running.step, Running.moveLoop, Running.onShared, hi]
    rw [hstate]
    exact (h.fits i l hi).spares_step h.sound env size ht

end Running.Valid

/-- Sessions, connections and loops belong together behind every run of a server. -/
theorem carriage_after [Device.DeviceModule μ] (s : Running μ) (h : s.IsNew)
    (turns : List (Turn μ)) : (s.after turns).Carriage :=
  (h.valid.after turns).carriage

/-- The second of three peers kills the session of the first, the third takes the id over, and only
then does the loop of the first notice. -/
def successionTurns : List (Turn Device.ScriptedModule) :=
  let hello (id : String) : Protocol.AgentMessage := .hello ⟨id, "operator", .empty⟩
  let kill : Protocol.AgentMessage :=
    .rpc ⟨"b", none, "kill-session", none, .ofMembers [("session-id", .string "a")]⟩
  [.connect, .connect, .connect, .send 0 (hello "a"), .send 1 (hello "b"), .send 2 (hello "a")] ++
    Turn.steps 0 12 ++ Turn.steps 1 10 ++ [.send 1 kill] ++ Turn.steps 1 30 ++ Turn.steps 2 10 ++
    Turn.steps 0 2

theorem carriage_after_succession :
    let start : Running Device.ScriptedModule := .ofHost default
    let now := start.after successionTurns
    start.IsNew ∧ now.Carriage ∧
      now.shared.sessions.records.map (fun r => (r.id, r.connection.number, r.status)) =
        [("a", 1, .closed), ("b", 2, .active), ("a", 3, .active)] ∧
      now.shared.sessions.list.map (·.number) = [2, 1] ∧
      now.loops.map (fun l => (l.own.map (·.number), l.phase.isTeardown)) =
        [(some 0, true), (some 1, false), (some 2, false)] :=
  ⟨Running.isNew_ofHost default, carriage_after _ (Running.isNew_ofHost default) successionTurns,
    by decide +kernel, by decide +kernel, by decide +kernel⟩

end ManagementServer.Server
