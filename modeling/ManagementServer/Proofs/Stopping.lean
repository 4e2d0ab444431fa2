import ManagementServer.Proofs.Attendance
import ManagementServer.Proofs.RegistryHistory

/-!
# Stopping a server

What one step of stopping a server does (`Running.Halts`), and what every move keeps while it is
stopped (`Running.Orderly`): sessions that were taken out of the registry are in the hands of
whoever closes them, every open connection belongs to a loop, and modules are closed only behind
the accepting thread, which ends behind all loops.
-/

namespace ManagementServer.Server

open ManagementServer.Action (Preserves)

variable {μ : Type}

namespace Stopping

/-- The sessions that stopping a server has taken out of the registry and is still to mark as
closed. -/
def pending : Stopping → List Session.Ref
  | .closing _ _ current rest => current.marks?.toList ++ rest
  | _ => []

/-- The modules that stopping a server has taken out of the registry and is still to close. -/
def unclosed : Stopping → List Device.Entry
  | .closingModules _ _ _ rest => rest
  | _ => []

/-- Whether stopping a server has waited for its threads. -/
def hasWaited : Stopping → Bool
  | .unloading .. | .closingModules .. | .stopped | .crashed => true
  | _ => false

/-- Whether stopping a server has taken the modules out of the registry. -/
def hasUnloaded : Stopping → Bool
  | .closingModules .. | .stopped | .crashed => true
  | _ => false

instance (s : Stopping) : Decidable (s = .stopped) :=
  match s with
  | .stopped => isTrue rfl
  | .idle | .halting | .disconnecting | .draining _ | .closing .. | .joining .. | .unloading ..
  | .closingModules .. | .crashed => isFalse Stopping.noConfusion

lemma hasWaited_of_hasUnloaded {s : Stopping} (h : s.hasUnloaded) : s.hasWaited := by
  cases s <;> simp_all [hasUnloaded, hasWaited]

lemma unclosed_of_loaded {s : Stopping} (h : s.hasUnloaded = false) : s.unclosed = [] := by
  cases s <;> simp_all [hasUnloaded, unclosed]

lemma ne_crashed_of_unclosed {s : Stopping} {e : Device.Entry} {rest : List Device.Entry}
    (h : s.unclosed = e :: rest) : s ≠ .crashed := by
  rintro rfl
  cases h

end Stopping

namespace Running

/-! ## Stage by stage -/

section Stages

variable [Device.DeviceModule μ]

/-- What a step of stopping a server makes of it, with the calls on modules. -/
inductive Halts (env : Environment) (s : Running μ) : Running μ → List Device.Call → Prop
  | requests (stage : s.stopping = .idle) : Halts env s
      { s with shared := { s.shared with isShuttingDown := true }, stopping := .halting } []
  | halts (stage : s.stopping = .halting) : Halts env s
      { s with isHalting := true, stopping := .disconnecting } []
  | disconnects (stage : s.stopping = .disconnecting) : Halts env s
      { s with
        shared := (Shared.closeAllConnections s.shared).state
        stopping := .draining s.shared.table.links.length } []
  | drainsNone {connections : Nat} (stage : s.stopping = .draining connections)
      (none : s.shared.sessions.list = []) : Halts env s
      { s with
        shared := { s.shared with sessions := s.shared.sessions.detachAll.1 }
        stopping := .joining connections 0 } []
  | drains {connections : Nat} {session : Session.Ref} {rest : List Session.Ref}
      (stage : s.stopping = .draining connections)
      (some : s.shared.sessions.list = session :: rest) : Halts env s
      { s with
        shared := { s.shared with sessions := s.shared.sessions.detachAll.1 }
        stopping := .closing connections (rest.length + 1) (.mark session) rest } []
  | closesLast {connections sessions : Nat}
      (stage : s.stopping = .closing connections sessions .done []) : Halts env s
      { s with stopping := .joining connections sessions } []
  | closesNext {connections sessions : Nat} {session : Session.Ref} {rest : List Session.Ref}
      (stage : s.stopping = .closing connections sessions .done (session :: rest)) : Halts env s
      { s with stopping := .closing connections sessions (.mark session) rest } []
  | closes {connections sessions : Nat} {current : Closing} {rest : List Session.Ref}
      (stage : s.stopping = .closing connections sessions current rest)
      (current_ne : current ≠ .done) : Halts env s
      { s with
        shared := (current.step s.shared).state
        stopping := .closing connections sessions (current.step s.shared).value rest }
      (current.step s.shared).calls
  | waits {connections sessions : Nat} (stage : s.stopping = .joining connections sessions)
      (joined : s.hasJoined = false) : Halts env s s []
  | joins {connections sessions : Nat} (stage : s.stopping = .joining connections sessions)
      (joined : s.hasJoined) : Halts env s { s with stopping := .unloading connections sessions } []
  | takes {connections sessions : Nat} (stage : s.stopping = .unloading connections sessions) :
      Halts env s
      { s with
        shared := { s.shared with modules := { s.shared.modules with entries := [] } }
        stopping := .closingModules connections sessions s.shared.modules.entries.length
          s.shared.modules.entries.reverse } []
  | unloadsLast {connections sessions modules : Nat}
      (stage : s.stopping = .closingModules connections sessions modules []) : Halts env s
      { s with stopping := .stopped } []
  | unloads {connections sessions modules : Nat} {e : Device.Entry} {rest : List Device.Entry}
      (stage : s.stopping = .closingModules connections sessions modules (e :: rest))
      (intact : s.shared.modules.isBroken e.handle = false) : Halts env s
      { s with
        shared := { s.shared with modules := (Device.Registry.close env e s.shared.modules).state }
        stopping := .closingModules connections sessions modules rest } [e.closing]
  | crashes {connections sessions modules : Nat} {e : Device.Entry} {rest : List Device.Entry}
      (stage : s.stopping = .closingModules connections sessions modules (e :: rest))
      (broken : s.shared.modules.isBroken e.handle) : Halts env s
      { s with
        shared := { s.shared with modules := (Device.Registry.close env e s.shared.modules).state }
        stopping := .crashed } [e.closing]
  | rests (stage : s.stopping = .stopped ∨ s.stopping = .crashed) : Halts env s s []

lemma Halts.of_gist {env : Environment} {s s' : Running μ} {calls : List Device.Call}
    (h : Halts env s s' calls) (hg : (stop env).gist s = ((), s', calls)) :
    Halts env s (stop env s).state (stop env s).calls := by
  obtain ⟨-, hs, hc⟩ := Action.gist_eq_iff.mp hg
  rw [hs, hc]
  exact h

lemma halts_stop (env : Environment) (s : Running μ) :
    Halts env s (stop env s).state (stop env s).calls := by
  cases hs : s.stopping with
  | idle =>
    refine (Halts.requests hs).of_gist ?_
    simp [stop, hs, Action.gist, onShared]
  | halting =>
    refine (Halts.halts hs).of_gist ?_
    simp [stop, hs, Action.gist]
  | disconnecting =>
    refine (Halts.disconnects hs).of_gist ?_
    simp [stop, hs, Action.gist, onShared, Shared.closeAllConnections]
  | draining connections =>
    cases hn : s.shared.sessions.list with
    | nil =>
      refine (Halts.drainsNone hs hn).of_gist ?_
      simp [stop, hs, Action.gist, onShared, Shared.changeSessions, Session.Registry.detachAll, hn]
    | cons session rest =>
      refine (Halts.drains hs hn).of_gist ?_
      simp [stop, hs, Action.gist, onShared, Shared.changeSessions, Session.Registry.detachAll, hn]
  | closing connections sessions current rest =>
    cases current with
    | done =>
      cases rest with
      | nil =>
        refine (Halts.closesLast hs).of_gist ?_
        simp [stop, hs, Action.gist]
      | cons session rest =>
        refine (Halts.closesNext hs).of_gist ?_
        simp [stop, hs, Action.gist]
    | _ =>
      refine (Halts.closes hs Closing.noConfusion).of_gist ?_
      simp [stop, hs, Action.gist, onShared, Result.calls]
  | joining connections sessions =>
    cases hj : s.hasJoined with
    | true =>
      refine (Halts.joins hs hj).of_gist ?_
      simp [stop, hs, hj, Action.gist]
    | false =>
      refine (Halts.waits hs hj).of_gist ?_
      simp [stop, hs, hj, Action.gist]
  | unloading connections sessions =>
    refine (Halts.takes hs).of_gist ?_
    simp [stop, hs, Action.gist, onModules, onShared, Shared.onModules, Device.Registry.takeAll]
  | closingModules connections sessions modules rest =>
    cases rest with
    | nil =>
      refine (Halts.unloadsLast hs).of_gist ?_
      simp [stop, hs, Action.gist, Result.calls, Occurrence.call?]
    | cons e rest =>
      obtain ⟨-, hcalls, hv⟩ := Device.Registry.close_spec env e s.shared.modules
      rw [Result.calls] at hcalls
      rw [Device.Registry.ending] at hv
      cases hb : s.shared.modules.isBroken e.handle with
      | true =>
        rw [hb, if_pos rfl] at hv
        refine (Halts.crashes hs hb).of_gist ?_
        simp [stop, hs, hv, Action.gist, onModules, onShared, Shared.onModules, Result.calls,
          hcalls]
      | false =>
        rw [hb, if_neg Bool.false_ne_true] at hv
        refine (Halts.unloads hs hb).of_gist ?_
        simp [stop, hs, hv, Action.gist, onModules, onShared, Shared.onModules, Result.calls,
          hcalls]
  | stopped =>
    refine (Halts.rests (.inl hs)).of_gist ?_
    simp [stop, hs, Action.gist]
  | crashed =>
    refine (Halts.rests (.inr hs)).of_gist ?_
    simp [stop, hs, Action.gist]

lemma stop_leaves (env : Environment) (s : Running μ) : ∃ shared isHalting stopping,
    (stop env s).state = { s with shared, isHalting, stopping } := by
  have h := halts_stop env s
  generalize (stop env s).state = s' at h ⊢
  generalize (stop env s).calls = calls at h
  cases h <;> exact ⟨_, _, _, rfl⟩

end Stages

/-! ## Moves of the other threads -/

/-- No session is registered or taken out, no module is called, and nobody goes on stopping the
server. -/
structure Rests (s₀ s : Running μ) (calls : List Device.Call) : Prop where
  shared : s₀.shared.Attends s.shared []
  stopping : s.stopping = s₀.stopping
  calls : calls = []

lemma rests_refl (s : Running μ) : Rests s s [] := by
  refine ⟨?_, rfl, rfl⟩
  exact Shared.attends_of_same rfl rfl

lemma Rests.of_same {s₀ s s' : Running μ} {calls : List Device.Call} (h : Rests s₀ s calls)
    (hs : s'.shared.sessions = s.shared.sessions) (hm : s'.shared.modules = s.shared.modules)
    (ht : s'.stopping = s.stopping) : Rests s₀ s' calls :=
  ⟨h.shared.of_same hs hm, ht.trans h.stopping, h.calls⟩

lemma rests_changeHost {s₀ s : Running μ} {calls : List Device.Call} (h : Rests s₀ s calls)
    (f : Connection.Listener → Connection.Host → Connection.Host) :
    Rests s₀ (s.changeHost f) calls := by
  unfold changeHost
  split
  · exact h.of_same rfl rfl rfl
  · exact h

lemma rests_onShared (s₀ : Running μ) {α : Type} {x : Action (Shared μ) α}
    (h : Preserves (Shared.Attends s₀.shared) x)
    (hc : Preserves (fun _ history => history = []) x) :
    Preserves (Rests s₀) (onShared x : Action (Running μ) α) := by
  intro s history hs
  have hcalls : (onShared x s).calls = [] := Shared.calls_of_preserves hc s.shared
  have hshared := h s.shared [] hs.shared
  have hsilent : (x s.shared).calls = [] := Shared.calls_of_preserves hc s.shared
  rw [hsilent] at hshared
  rw [hcalls, List.append_nil]
  exact ⟨hshared, hs.stopping, hs.calls⟩

lemma rests_connect (s₀ : Running μ) :
    Preserves (Rests s₀) (connect : Action (Running μ) (Option SocketId)) := by
  refine Preserves.bind Preserves.get fun s => ?_
  split
  · exact Preserves.pure _
  · refine Preserves.bind (Preserves.modify fun _ _ h => h.of_same rfl rfl rfl) fun _ => ?_
    split
    · exact Preserves.bind (Preserves.modify fun _ _ h => h.of_same rfl rfl rfl) fun _ =>
        Preserves.pure _
    · exact Preserves.bind (Preserves.modify fun _ _ h => h.of_same rfl rfl rfl) fun _ =>
        Preserves.pure _

lemma rests_accept (s₀ : Running μ) (env : Environment) :
    Preserves (Rests s₀) (accept env : Action (Running μ) Unit) := by
  refine Preserves.bind Preserves.get fun s => ?_
  split
  · exact Preserves.pure _
  · exact Preserves.pure _
  · exact Preserves.pure _
  · exact Preserves.modify fun _ _ h => h.of_same rfl rfl rfl
  · split
    · exact Preserves.modify fun _ _ h => h.of_same rfl rfl rfl
    · split
      · exact Preserves.modify fun _ _ h => h.of_same rfl rfl rfl
      · exact Preserves.modify fun _ _ h => h.of_same rfl rfl rfl
  · exact Preserves.modify fun _ _ h => (rests_changeHost h _).of_same rfl rfl rfl
  · split
    · exact Preserves.modify fun _ _ h => (rests_changeHost h _).of_same rfl rfl rfl
    · exact Preserves.pure _

lemma rests_crashAccepting (s₀ : Running μ) :
    Preserves (Rests s₀) (crashAccepting : Action (Running μ) Unit) := by
  refine Preserves.bind Preserves.get fun s => ?_
  split
  · exact Preserves.pure _
  · exact Preserves.pure _
  · exact Preserves.pure _
  · exact Preserves.modify fun _ _ h => (rests_changeHost h _).of_same rfl rfl rfl

lemma rests_changeSocket (s₀ : Running μ) (id : SocketId)
    (f : Connection.Socket → Connection.Socket) :
    Preserves (Rests s₀) (onShared (Shared.changeSocket id f) : Action (Running μ) Unit) := by
  refine rests_onShared s₀ (Preserves.modify fun _ _ h => h.of_same rfl rfl) ?_
  exact Preserves.modify fun _ _ h => h

variable [Device.DeviceModule μ]

lemma rests_step (env : Environment) (s : Running μ) {move : Move}
    (hl : ∀ index size, move ≠ .loop index size) (hs : move ≠ .stop) :
    Rests s (step env move s).state (step env move s).calls := by
  suffices h : Preserves (Rests s) (step env move) from h s [] (rests_refl s)
  have hattends := Shared.withstands_attends s.shared
  cases move with
  | connect => exact Preserves.bind (rests_connect s) fun _ => Preserves.pure _
  | send socket bytes => exact rests_changeSocket s socket _
  | hangUp socket => exact rests_changeSocket s socket _
  | breakDown socket detail => exact rests_changeSocket s socket _
  | publish event =>
    exact rests_onShared s (Shared.preserves_changeBus hattends.tolerates _)
      (Shared.preserves_changeBus Shared.withstands_silent.tolerates _)
  | accept => exact rests_accept s env
  | crashAccepting => exact rests_crashAccepting s
  | loop index size => exact absurd rfl (hl index size)
  | deliver delivery =>
    exact rests_onShared s (Shared.preserves_deliver hattends _ _)
      (Shared.preserves_deliver Shared.withstands_silent _ _)
  | stop => exact absurd rfl hs

/-! ## Sessions that are being closed -/

/-- Whether a loop, or whoever stops the server, has taken a session out of the registry to close
it. -/
def HasInHand (s : Running μ) (ref : Session.Ref) : Prop :=
  (∃ l ∈ s.loops, l.phase.marks? = some ref) ∨ ref ∈ s.stopping.pending

/-- Whichever session was ever registered is closed or registered still, or somebody is closing
it. -/
def Tracked (s : Running μ) : Prop := s.shared.sessions.Tracks s.HasInHand

omit [Device.DeviceModule μ] in
lemma Tracked.of_same {s s' : Running μ} (h : s.Tracked)
    (hs : s'.shared.sessions = s.shared.sessions) (hl : s'.loops = s.loops)
    (hp : ∀ ref ∈ s.stopping.pending, ref ∈ s'.stopping.pending) : s'.Tracked := by
  rw [Tracked, hs]
  refine h.mono fun ref hr => hr.imp ?_ (hp ref)
  rintro ⟨l, hm, he⟩
  exact ⟨l, hl ▸ hm, he⟩

lemma tracked_rests (env : Environment) {s : Running μ} (h : s.Tracked) {move : Move}
    (hl : ∀ index size, move ≠ .loop index size) (hs : move ≠ .stop) :
    Tracked (step env move s).state := by
  have hrests := rests_step env s hl hs
  have hages := (Turn.move env move : Turn μ).ages s
  have hattended := h.attended hrests.shared.byId hrests.shared.records hages
  refine hattended.mono fun ref hr => hr.imp ?_ ?_
  · rintro ⟨l, hm, he⟩
    refine ⟨l, ?_, he⟩
    rcases (Turn.move env move : Turn μ).effect s with hsteady | ⟨_, _, _, hw⟩ | ⟨_, _, hloops, _⟩ |
      ⟨_, index, size, _, hturn, _⟩
    · exact hsteady.loops ▸ hm
    · rcases hw with ⟨hloops, -⟩ | ⟨hloops, -⟩
      · exact hloops ▸ List.mem_append_left _ hm
      · exact hloops ▸ hm
    · exact hloops ▸ List.mem_append_left _ hm
    · exact absurd (Turn.move.inj hturn).2 (hl index size)
  · rw [hrests.stopping]
    exact id

lemma moveLoop_eq (env : Environment) (index size : Nat) {s : Running μ} {l : Loop}
    (h : s.loops[index]? = some l) : (moveLoop env index size).gist s =
      ((), { s with
        shared := (l.step env size s.shared).state
        loops := s.loops.set index (l.step env size s.shared).value },
        (l.step env size s.shared).calls) := by
  simp [moveLoop, h, Action.gist, onShared, Result.calls]

lemma moveLoop_none (env : Environment) {index : Nat} (size : Nat) {s : Running μ}
    (h : s.loops[index]? = none) : (moveLoop env index size).gist s = ((), s, []) := by
  simp [moveLoop, h, Action.gist]

lemma tracked_loop (env : Environment) (index size : Nat) {s : Running μ} (h : s.Tracked)
    (hc : s.shared.sessions.Coherent) : Tracked (moveLoop env index size s).state := by
  cases hi : s.loops[index]? with
  | none =>
    rw [(Action.gist_eq_iff.mp (moveLoop_none env size hi)).2.1]
    exact h
  | some l =>
    obtain ⟨-, hstate, -⟩ := Action.gist_eq_iff.mp (moveLoop_eq env index size hi)
    have hlt : index < s.loops.length := (List.getElem?_eq_some_iff.mp hi).1
    -- What the other loops have in hand is not touched, so the step is one of this loop alone.
    let others ref := (∃ j m, j ≠ index ∧ s.loops[j]? = some m ∧ m.phase.marks? = some ref) ∨
      ref ∈ s.stopping.pending
    have hself : s.shared.sessions.Tracks fun ref => l.phase.marks? = some ref ∨ others ref := by
      refine h.mono fun ref hr => ?_
      rcases hr with ⟨m, hm, he⟩ | hp
      · obtain ⟨j, hj⟩ := List.mem_iff_getElem?.mp hm
        by_cases hji : j = index
        · subst hji
          obtain rfl := Option.some.inj (hi.symm.trans hj)
          exact .inl he
        · exact .inr (.inl ⟨j, m, hji, hj, he⟩)
      · exact .inr (.inr hp)
    rw [hstate]
    refine (Loop.tracks_step env size hc hself).mono fun ref hr => ?_
    rcases hr with he | ⟨j, m, hj, hm, he⟩ | hp
    · exact .inl ⟨_, List.mem_of_getElem? (List.getElem?_set_self hlt), he⟩
    · refine .inl ⟨m, ?_, he⟩
      have hkept := List.getElem?_set_ne (Ne.symm hj) (a := (l.step env size s.shared).value) ▸ hm
      exact List.mem_of_getElem? hkept
    · exact .inr hp

/-- Taking every session out leaves them to whoever stops the server, who closes one after the
other. -/
lemma tracked_stop (env : Environment) {s : Running μ} (h : s.Tracked) :
    Tracked (stop env s).state := by
  have hnone : s.stopping.pending = [] → ∀ s' : Running μ, ∀ ref ∈ s.stopping.pending,
      ref ∈ s'.stopping.pending := by
    intro hp s' ref hm
    rw [hp] at hm
    cases hm
  have hdetached : s.stopping.pending = [] → s.shared.sessions.detachAll.1.Tracks fun ref =>
      (∃ l ∈ s.loops, l.phase.marks? = some ref) ∨ ref ∈ s.shared.sessions.list := by
    intro hp
    refine (Session.Registry.Tracks.detachAll h).mono fun ref hr => ?_
    rcases hr with hm | hl | hm
    · exact .inr hm
    · exact .inl hl
    · rw [hp] at hm
      cases hm
  have hhalts := halts_stop env s
  generalize (stop env s).state = s' at hhalts ⊢
  generalize (stop env s).calls = calls at hhalts
  cases hhalts with
  | drainsNone stage hlist | drains stage hlist =>
    have hnow := hdetached (by rw [stage]; rfl)
    rw [hlist] at hnow
    exact hnow
  | closesNext stage =>
    refine h.of_same rfl rfl fun ref hm => ?_
    rw [stage] at hm
    exact hm
  | @closes _ _ current rest stage =>
    cases hm : current.marks? with
    | some session =>
      obtain rfl : current = .mark session := by
        cases current <;> simp_all [Closing.marks?]
      have hmarked : s.shared.sessions.Tracks fun ref =>
          ref = session ∨ (∃ l ∈ s.loops, l.phase.marks? = some ref) ∨ ref ∈ rest := by
        refine h.mono fun ref hr => ?_
        rcases hr with hl | hp
        · exact .inr (.inl hl)
        · rw [stage] at hp
          rcases List.mem_cons.mp hp with he | hm
          · exact .inl he
          · exact .inr (.inr hm)
      exact hmarked.markClosed
    | none =>
      -- Any other step of closing a session leaves to be closed what was left.
      have hattends := Shared.attends_of_preserves
        (Closing.preserves_step (Shared.withstands_attends s.shared) current)
      have hfollows := Closing.keeps_step current s.shared
      have hnow := h.attended hattends.byId hattends.records hfollows.sessions.ages
      refine hnow.mono fun ref hr => hr.imp_right fun hp => ?_
      rw [stage, Stopping.pending, hm] at hp
      exact List.mem_append_right _ hp
  | waits | rests => exact h
  | requests stage | halts stage | disconnects stage | closesLast stage | joins stage
  | takes stage | unloadsLast stage | unloads stage | crashes stage =>
    exact h.of_same rfl rfl (hnone (by rw [stage]; rfl) _)

lemma tracked_step (env : Environment) (move : Move) {s : Running μ} (h : s.Tracked)
    (hc : s.shared.sessions.Coherent) : Tracked (step env move s).state := by
  cases move with
  | loop index size => exact tracked_loop env index size h hc
  | stop => exact tracked_stop env h
  | _ => exact tracked_rests env h (fun _ _ => Move.noConfusion) Move.noConfusion

/-! ## Connections and their loops -/

/-- Every connection that is open is the one of a loop. -/
def Manned (s : Running μ) : Prop :=
  ∀ connection socket, (connection, socket) ∈ s.shared.carriers →
    ∃ l ∈ s.loops, l.connection = connection

omit [Device.DeviceModule μ] in
lemma Manned.of_more {s s' : Running μ} (h : s.Manned)
    (hc : s'.shared.carriers = s.shared.carriers) (hl : ∀ l ∈ s.loops, l ∈ s'.loops) :
    s'.Manned := by
  intro connection socket hm
  rw [hc] at hm
  obtain ⟨l, hmem, he⟩ := h connection socket hm
  exact ⟨l, hl l hmem, he⟩

/-- A loop that opens a connection makes it its own; the one it had before is not open. -/
lemma manned_turn (t : Turn μ) {s : Running μ} (h : s.Manned) (hv : s.Valid) :
    Manned (t.act s) := by
  rcases t.effect s with hs | ⟨_, _, hs, hw⟩ | ⟨_, _, hl, hs⟩ | ⟨env, i, size, l, -, hi, hl, -, hs⟩
  · exact h.of_more hs.shared.carriers fun l hm => hs.loops ▸ hm
  · refine h.of_more (by rw [hs]; rfl) fun l hm => ?_
    rcases hw with ⟨hl, -⟩ | ⟨hl, -⟩
    · exact hl ▸ List.mem_append_left _ hm
    · exact hl ▸ hm
  · exact h.of_more (by rw [hs]) fun l hm => hl ▸ List.mem_append_left _ hm
  · have hlt : i < s.loops.length := (List.getElem?_eq_some_iff.mp hi).1
    intro connection socket hm
    rw [hs] at hm
    rw [hl]
    have hself := List.mem_of_getElem?
      (List.getElem?_set_self hlt (a := (l.step env size s.shared).value))
    rcases Loop.carriers_step env size s.shared hm with hold | he
    · obtain ⟨m, hmem, he⟩ := h connection socket hold
      obtain ⟨j, hj⟩ := List.mem_iff_getElem?.mp hmem
      by_cases hji : i = j
      · subst hji
        obtain rfl := Option.some.inj (hi.symm.trans hj)
        refine ⟨_, hself, ?_⟩
        -- Only a loop that registers takes another connection, and it has none open.
        rw [(Loop.peer_step env size s.shared).2 ?_, he]
        intro hr
        exact (hv.fits i l hi).unlinked (by rw [hr]; rfl) socket (he ▸ hold)
      · refine ⟨m, ?_, he⟩
        rw [← List.getElem?_set_ne hji (a := (l.step env size s.shared).value)] at hj
        exact List.mem_of_getElem? hj
    · exact ⟨_, hself, he.symm⟩

/-! ## The accepting thread -/

/-- There is an accepting thread that has not crashed, and it ends behind all loops. -/
structure Joins (s : Running μ) : Prop where
  present : s.accepting ≠ .absent
  alive : s.accepting ≠ .crashed
  joined : s.accepting = .ended → ∀ l ∈ s.loops, l.phase = .ended

omit [Device.DeviceModule μ] in
lemma Joins.of_same {s s' : Running μ} (h : s.Joins) (ha : s'.accepting = s.accepting)
    (hl : s.accepting = .ended → s'.loops = s.loops) : s'.Joins := by
  refine ⟨ha ▸ h.present, ha ▸ h.alive, fun he => ?_⟩
  rw [ha] at he
  rw [hl he]
  exact h.joined he

omit [Device.DeviceModule μ] in
lemma Joins.of_going {s : Running μ} (hs : s.hasJoined = false) : s.Joins := by
  refine ⟨?_, ?_, ?_⟩
  · intro he
    simp [hasJoined, he] at hs
  · intro he
    simp [hasJoined, he] at hs
  · intro he
    simp [hasJoined, he] at hs

omit [Device.DeviceModule μ] in
lemma joins_connect {s : Running μ} (h : s.Joins) : Joins (connect s).state := by
  cases ho : s.isOpen with
  | false =>
    have hstate : (connect s).state = s := by simp [connect, ho]
    rw [hstate]
    exact h
  | true =>
    have hn : s.accepting ≠ .ended := by
      intro he
      simp [isOpen, he] at ho
    refine h.of_same ?_ fun he => absurd he hn
    simp [connect, ho, h.present]

omit [Device.DeviceModule μ] in
lemma changeHost_loops (f : Connection.Listener → Connection.Host → Connection.Host)
    (s : Running μ) : (s.changeHost f).loops = s.loops := by
  unfold changeHost
  split
  · rfl
  · rfl

omit [Device.DeviceModule μ] in
lemma joins_accept (env : Environment) {s : Running μ} (h : s.Joins) :
    Joins (accept env s).state := by
  cases ha : s.accepting with
  | absent => exact absurd ha h.present
  | crashed => exact absurd ha h.alive
  | ended =>
    have hstate : (accept env s).state = s := by simp [accept, ha]
    rw [hstate]
    exact h
  | checking =>
    refine Joins.of_going ?_
    cases hh : s.isHalting <;> simp [accept, ha, hh, hasJoined]
  | accepting =>
    refine Joins.of_going ?_
    cases hb : s.backlog with
    | nil => simp [accept, ha, hb, hasJoined]
    | cons socket rest => cases hf : env.threadFault <;> simp [accept, ha, hb, hf, hasJoined]
  | cleaning =>
    refine Joins.of_going ?_
    simp [accept, ha, hasJoined]
  | joining =>
    by_cases hl : s.loops.all (·.isEnded)
    · simp only [accept, Action.bind_apply, Action.get_apply, ha, hl, if_true]
      refine ⟨Accepting.noConfusion, Accepting.noConfusion, fun _ l hm => ?_⟩
      have hm' : l ∈ s.loops := by
        rw [← changeHost_loops Connection.Host.abandon s]
        exact hm
      have hended := List.all_eq_true.mp hl l hm'
      unfold Loop.isEnded at hended
      split at hended
      · assumption
      · cases hended
    · simp only [accept, Action.bind_apply, Action.get_apply, ha, hl]
      exact h

lemma joins_loop (env : Environment) (index size : Nat) {s : Running μ} (h : s.Joins) :
    Joins (moveLoop env index size s).state := by
  cases hi : s.loops[index]? with
  | none =>
    rw [(Action.gist_eq_iff.mp (moveLoop_none env size hi)).2.1]
    exact h
  | some l =>
    rw [(Action.gist_eq_iff.mp (moveLoop_eq env index size hi)).2.1]
    refine h.of_same rfl fun he => ?_
    have hended := h.joined he l (List.mem_of_getElem? hi)
    rw [Loop.step_ended hended]
    obtain ⟨hlt, rfl⟩ := List.getElem?_eq_some_iff.mp hi
    exact List.set_getElem_self hlt

lemma joins_step (env : Environment) {move : Move} (hm : move ≠ .crashAccepting) {s : Running μ}
    (h : s.Joins) : Joins (step env move s).state := by
  cases move with
  | connect => exact joins_connect h
  | accept => exact joins_accept env h
  | crashAccepting => exact absurd rfl hm
  | loop index size => exact joins_loop env index size h
  | stop =>
    obtain ⟨shared, isHalting, stopping, he⟩ := stop_leaves env s
    change Joins (stop env s).state
    rw [he]
    exact h.of_same rfl fun _ => rfl
  | _ => exact h.of_same rfl fun _ => rfl

/-- Behind all loops nothing is left to accept. -/
lemma ended_step (env : Environment) (move : Move) {s : Running μ} (h : s.accepting = .ended) :
    (step env move s).state.accepting = .ended := by
  cases move with
  | connect => simp [step, connect, isOpen, h]
  | accept => simp [step, accept, h]
  | crashAccepting => simp [step, crashAccepting, h]
  | loop index size =>
    cases hi : s.loops[index]? with
    | none =>
      change (moveLoop env index size s).state.accepting = .ended
      rw [(Action.gist_eq_iff.mp (moveLoop_none env size hi)).2.1]
      exact h
    | some l =>
      change (moveLoop env index size s).state.accepting = .ended
      rw [(Action.gist_eq_iff.mp (moveLoop_eq env index size hi)).2.1]
      exact h
  | stop =>
    obtain ⟨shared, isHalting, stopping, he⟩ := stop_leaves env s
    change (stop env s).state.accepting = .ended
    rw [he]
    exact h
  | _ => exact h

/-! ## Modules -/

/-- What a step of stopping a server does to the modules: nothing, or it takes them all out of the
registry behind the threads, or it closes the next of those that were taken out, and that is the
last if the module crashes. -/
inductive Unloading (s s' : Running μ) : List Device.Call → Prop
  | keeps (modules : s.shared.modules.Serves s'.shared.modules [])
      (unclosed : s'.stopping.unclosed = s.stopping.unclosed)
      (unloaded : s'.stopping.hasUnloaded = s.stopping.hasUnloaded)
      (crashed : s.stopping = .crashed → s'.stopping = .crashed)
      (waited : s'.stopping.hasWaited → s.stopping.hasWaited ∨ s.hasJoined) : Unloading s s' []
  | takes (waited : s.stopping.hasWaited) (loaded : s.stopping.hasUnloaded = false)
      (modules : s'.shared.modules = { s.shared.modules with entries := [] })
      (unclosed : s'.stopping.unclosed = s.shared.modules.entries.reverse)
      (unloaded : s'.stopping.hasUnloaded) : Unloading s s' []
  | closes (env : Environment) (e : Device.Entry) (rest : List Device.Entry)
      (modules : s'.shared.modules = (Device.Registry.close env e s.shared.modules).state)
      (unclosed : s.stopping.unclosed = e :: rest)
      (unloaded : s.stopping.hasUnloaded ∧ s'.stopping.hasUnloaded)
      (left : s'.stopping.unclosed = rest ∨
        s'.stopping.unclosed = [] ∧ s'.stopping = .crashed) : Unloading s s' [e.closing]

lemma unloading_of_same {s s' : Running μ} (hm : s'.shared.modules = s.shared.modules)
    (hu : s'.stopping.hasUnloaded = s.stopping.hasUnloaded)
    (hc : s'.stopping.unclosed = s.stopping.unclosed)
    (hcrash : s.stopping = .crashed → s'.stopping = .crashed)
    (hw : s'.stopping.hasWaited → s.stopping.hasWaited ∨ s.hasJoined) : Unloading s s' [] := by
  refine .keeps ?_ hc hu hcrash hw
  rw [hm]
  exact Device.Registry.serves_refl s.shared.modules

lemma unloading_stop (env : Environment) (s : Running μ) :
    Unloading s (stop env s).state (stop env s).calls := by
  have hhalts := halts_stop env s
  generalize (stop env s).state = s' at hhalts ⊢
  generalize (stop env s).calls = calls at hhalts ⊢
  cases hhalts with
  | @closes _ _ current rest stage =>
    have hattends := Shared.attends_of_preserves
      (Closing.preserves_step (Shared.withstands_attends s.shared) current)
    have hsilent := Shared.calls_of_preserves
      (Closing.preserves_step Shared.withstands_silent current) s.shared
    have hserves := hattends.modules
    rw [hsilent] at hserves ⊢
    refine .keeps hserves (by rw [stage]; rfl) (by rw [stage]; rfl) ?_ fun h => by cases h
    rw [stage]
    exact Stopping.noConfusion
  | joins stage joined =>
    refine unloading_of_same rfl (by rw [stage]; rfl) (by rw [stage]; rfl) ?_ fun _ => .inr joined
    rw [stage]
    exact Stopping.noConfusion
  | takes stage => exact .takes (by rw [stage]; rfl) (by rw [stage]; rfl) rfl rfl rfl
  | unloads stage =>
    exact .closes env _ _ rfl (by rw [stage]; rfl) ⟨by rw [stage]; rfl, rfl⟩ (.inl rfl)
  | crashes stage =>
    exact .closes env _ _ rfl (by rw [stage]; rfl) ⟨by rw [stage]; rfl, rfl⟩ (.inr ⟨rfl, rfl⟩)
  | waits | rests => exact unloading_of_same rfl rfl rfl id .inl
  | unloadsLast stage =>
    refine unloading_of_same rfl (by rw [stage]; rfl) (by rw [stage]; rfl) ?_
      fun _ => .inl (by rw [stage]; rfl)
    rw [stage]
    exact Stopping.noConfusion
  | requests stage | halts stage | disconnects stage | drainsNone stage | drains stage
  | closesLast stage | closesNext stage =>
    refine unloading_of_same rfl (by rw [stage]; rfl) (by rw [stage]; rfl) ?_ fun h => by cases h
    rw [stage]
    exact Stopping.noConfusion

/-- Modules are asked at most, and by loops only, unless somebody stops the server. -/
lemma modules_step (env : Environment) (s : Running μ) {move : Move} (hm : move ≠ .stop) :
    s.shared.modules.Serves (step env move s).state.shared.modules (step env move s).calls ∧
      (step env move s).state.stopping = s.stopping := by
  by_cases hl : ∃ index size, move = .loop index size
  · obtain ⟨index, size, rfl⟩ := hl
    change s.shared.modules.Serves (moveLoop env index size s).state.shared.modules
      (moveLoop env index size s).calls ∧ (moveLoop env index size s).state.stopping = s.stopping
    cases hi : s.loops[index]? with
    | none =>
      obtain ⟨-, hs, hc⟩ := Action.gist_eq_iff.mp (moveLoop_none env size hi)
      rw [hs, hc]
      exact ⟨Device.Registry.serves_refl s.shared.modules, rfl⟩
    | some l =>
      obtain ⟨-, hs, hc⟩ := Action.gist_eq_iff.mp (moveLoop_eq env index size hi)
      rw [hs, hc]
      exact ⟨Loop.modules_step env size s.shared, rfl⟩
  · have hrests := rests_step env s (fun index size he => hl ⟨index, size, he⟩) hm
    rw [hrests.calls]
    exact ⟨hrests.shared.modules, hrests.stopping⟩

/-- What holds of a server that listens, and whose threads do not crash, also while it is
stopped. -/
structure Orderly (s : Running μ) : Prop where
  valid : s.Valid
  tracked : s.Tracked
  manned : s.Manned
  joins : s.Joins
  waited : s.stopping.hasWaited → s.accepting = .ended

omit [Device.DeviceModule μ] in
lemma Joins.ended {s : Running μ} (h : s.Joins) (hj : s.hasJoined) : s.accepting = .ended := by
  cases ha : s.accepting with
  | ended => rfl
  | absent => exact absurd ha h.present
  | crashed => exact absurd ha h.alive
  | _ => simp [hasJoined, ha] at hj

lemma waited_step (env : Environment) (move : Move) {s : Running μ} (h : s.Orderly)
    (hw : (step env move s).state.stopping.hasWaited) :
    (step env move s).state.accepting = .ended := by
  apply ended_step env move
  by_cases hm : move = .stop
  · subst hm
    change (stop env s).state.stopping.hasWaited = true at hw
    have hu := unloading_stop env s
    generalize (stop env s).state = s' at hw hu
    generalize (stop env s).calls = calls at hu
    cases hu with
    | keeps _ _ _ _ hwaited =>
      rcases hwaited hw with hold | hj
      · exact h.waited hold
      · exact h.joins.ended hj
    | takes hold => exact h.waited hold
    | closes _ _ _ _ _ hunloaded => exact h.waited (Stopping.hasWaited_of_hasUnloaded hunloaded.1)
  · rw [(modules_step env s hm).2] at hw
    exact h.waited hw

lemma Orderly.step {s : Running μ} (h : s.Orderly) (env : Environment) {move : Move}
    (hm : move ≠ .crashAccepting) : Orderly (Running.step env move s).state :=
  ⟨h.valid.turn (.move env move), tracked_step env move h.tracked h.valid.sound.sessions,
    manned_turn (.move env move) h.manned h.valid, joins_step env hm h.joins,
    waited_step env move h⟩

end Running

end ManagementServer.Server
