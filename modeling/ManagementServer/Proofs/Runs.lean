import ManagementServer.Proofs.ConnectionLoop
import ManagementServer.Proofs.ModuleRegistry
import ManagementServer.Server.Running

/-!
# Runs of a server

A run is a list of turns in any order: moves of the threads and of the peers, each in surroundings
of its own, and changes of the modules. `Turn.effect` says what a turn can do to the threads and to
what they share; what holds along all runs follows from it.
-/

namespace ManagementServer.Server

open ManagementServer.Action (Keeps)

variable {μ α : Type}

namespace Running

/-- Nobody has connected to the server yet. -/
structure IsNew (s : Running μ) : Prop where
  shared : s.shared = .ofModules s.shared.modules
  loops : s.loops = []
  backlog : s.backlog = []

lemma isNew_ofHost (host : Connection.Host) : IsNew (ofHost host : Running μ) := ⟨rfl, rfl, rfl⟩

/-- The loops stay where they are, and nothing happens that is more than `Shared.Follows` admits. -/
structure Steady (s s' : Running μ) : Prop where
  loops : s'.loops = s.loops
  backlog : s'.backlog.Sublist s.backlog
  shared : s.shared.Follows s'.shared

instance : Std.Refl (Steady (μ := μ)) :=
  ⟨fun s => ⟨rfl, List.Sublist.refl _, Std.Refl.refl s.shared⟩⟩

instance : IsTrans (Running μ) Steady :=
  ⟨fun _ _ _ h h' => ⟨h'.loops.trans h.loops, h'.backlog.trans h.backlog,
    IsTrans.trans _ _ _ h.shared h'.shared⟩⟩

lemma keeps_onShared {x : Action (Shared μ) α} (h : Keeps Shared.Follows x) :
    Keeps Steady (onShared x : Action (Running μ) α) :=
  fun s => ⟨rfl, List.Sublist.refl _, h s.shared⟩

lemma steady_of_same {s s' : Running μ} (hl : s'.loops = s.loops) (hb : s'.backlog = s.backlog)
    (hs : s'.shared = s.shared) : Steady s s' := by
  refine ⟨hl, ?_, ?_⟩
  · rw [hb]
  · rw [hs]
    exact Std.Refl.refl _

lemma keeps_modify {f : Running μ → Running μ} (h : ∀ s, Steady s (f s)) :
    Keeps Steady (Action.modify f) :=
  h

lemma steady_changeHost (f : Connection.Listener → Connection.Host → Connection.Host)
    (s : Running μ) : Steady s (s.changeHost f) := by
  unfold changeHost
  split
  · exact steady_of_same rfl rfl rfl
  · exact Std.Refl.refl s

lemma follows_shutSockets (sockets : List SocketId) (s : Shared μ) :
    Shared.Follows s
      { s with
        sockets := sockets.foldl
          (fun acc id => acc.modify id.number fun k => { k with isShut := true }) s.sockets } := by
  induction sockets generalizing s with
  | nil => exact Std.Refl.refl s
  | cons id rest ih => exact IsTrans.trans _ _ _ (Shared.keeps_shut id s) (ih _)

lemma steady_refuseBacklog (s : Running μ) : Steady s s.refuseBacklog :=
  ⟨rfl, List.nil_sublist _, follows_shutSockets s.backlog s.shared⟩

lemma keeps_crashAccepting : Keeps Steady (crashAccepting : Action (Running μ) Unit) := by
  refine Keeps.bind Keeps.get fun s => ?_
  split
  · exact Keeps.pure _
  · exact Keeps.pure _
  · exact Keeps.pure _
  · refine keeps_modify fun s => ?_
    have h := IsTrans.trans _ _ _ (steady_changeHost Connection.Host.abandon s)
      (steady_refuseBacklog (s.changeHost Connection.Host.abandon))
    exact ⟨h.loops, h.backlog, h.shared⟩

variable [Device.DeviceModule μ]

lemma keeps_stop (env : Environment) : Keeps Steady (stop env : Action (Running μ) Unit) := by
  have hgo : ∀ stopping, Keeps Steady (Action.modify fun s : Running μ => { s with stopping }) :=
    fun _ => keeps_modify fun _ => steady_of_same rfl rfl rfl
  refine Keeps.bind Keeps.get fun s => ?_
  dsimp only
  split
  · exact Keeps.bind (keeps_onShared fun _ => Shared.follows_of_same rfl rfl rfl) fun _ => hgo _
  · exact Keeps.bind (keeps_modify fun _ => steady_of_same rfl rfl rfl) fun _ => hgo _
  · exact Keeps.bind (keeps_onShared Shared.keeps_closeAllConnections) fun _ => hgo _
  · refine Keeps.bind (keeps_onShared (Shared.keeps_changeSessions fun r => r.narrows_detachAll))
      fun found => ?_
    split
    · exact hgo _
    · exact hgo _
  · exact hgo _
  · exact hgo _
  · exact Keeps.bind (keeps_onShared (Closing.keeps_step _)) fun _ => hgo _
  · split
    · exact hgo _
    · exact Keeps.pure _
  · exact Keeps.bind (keeps_onShared (Shared.keeps_onModules _)) fun _ => hgo _
  · exact Keeps.bind (Keeps.log _ _ _ _) fun _ => hgo _
  · refine Keeps.bind (keeps_onShared (Shared.keeps_onModules _)) fun outcome => ?_
    cases outcome with
    | crashed => exact hgo _
    | returned _ => exact hgo _
  · exact Keeps.pure _
  · exact Keeps.pure _

end Running

/-! ## Turns -/

/-- One thing that happens in a run. -/
inductive Turn (μ : Type) where
  | move (env : Environment) (move : Move)
  | modules (change : Device.Registry μ → Device.Registry μ)

namespace Turn

variable [Device.DeviceModule μ]

/-- The server behind a turn. -/
def act (s : Running μ) : Turn μ → Running μ
  | .move env what => (Running.step env what s).state
  | .modules change =>
    { s with shared := { s.shared with modules := change s.shared.modules } }

/-- What a turn can do to a server: leave its loops alone, let a peer come, let the accepting thread
start a loop, or let a loop make its step. -/
inductive Effect (t : Turn μ) (s s' : Running μ) : Prop where
  | steady (h : s.Steady s')
  | arrival (socket : SocketId) (number : socket.number = s.shared.sockets.length)
      (shared : s'.shared = { s.shared with sockets := s.shared.sockets ++ [.fresh] })
      (waits : s'.loops = s.loops ++ [.start socket] ∧ s'.backlog = s.backlog ∨
        s'.loops = s.loops ∧ s'.backlog = s.backlog ++ [socket])
  | accepted (socket : SocketId) (backlog : s.backlog = socket :: s'.backlog)
      (loops : s'.loops = s.loops ++ [.start socket]) (shared : s'.shared = s.shared)
  | stepped (env : Environment) (index size : Nat) (l : Loop)
      (turn : t = .move env (.loop index size)) (found : s.loops[index]? = some l)
      (loops : s'.loops = s.loops.set index (l.step env size s.shared).value)
      (backlog : s'.backlog = s.backlog) (shared : s'.shared = (l.step env size s.shared).state)

lemma effect_connect (env : Environment) (s : Running μ) :
    (Turn.move env .connect).Effect s (act s (.move env .connect)) := by
  have hstate : act s (.move env .connect) = (Running.connect s).state := rfl
  rw [hstate]
  by_cases ho : s.isOpen
  · by_cases ha : s.accepting = .absent
    · exact .arrival ⟨s.shared.sockets.length⟩ rfl (by simp [Running.connect, ho, ha])
        (.inl (by simp [Running.connect, ho, ha]))
    · exact .arrival ⟨s.shared.sockets.length⟩ rfl (by simp [Running.connect, ho, ha])
        (.inr (by simp [Running.connect, ho, ha]))
  · have hs : (Running.connect s).state = s := by simp [Running.connect, ho]
    rw [hs]
    exact .steady (Std.Refl.refl s)

lemma effect_accept (env : Environment) (s : Running μ) :
    (Turn.move env .accept).Effect s (act s (.move env .accept)) := by
  have hstate : act s (.move env .accept) = (Running.accept env s).state := rfl
  rw [hstate]
  cases ha : s.accepting with
  | absent | ended | crashed =>
    refine .steady ?_
    simp only [Running.accept, Action.bind_apply, Action.get_apply, ha]
    exact Std.Refl.refl s
  | checking =>
    simp only [Running.accept, Action.bind_apply, Action.get_apply, ha]
    exact .steady (Running.steady_of_same rfl rfl rfl)
  | accepting =>
    cases hb : s.backlog with
    | nil =>
      simp only [Running.accept, Action.bind_apply, Action.get_apply, ha, hb]
      exact .steady (Running.steady_of_same rfl rfl rfl)
    | cons socket rest =>
      cases hf : env.threadFault with
      | some detail =>
        simp only [Running.accept, Action.bind_apply, Action.get_apply, ha, hb, hf]
        refine .steady ⟨rfl, ?_, Shared.keeps_shut socket s.shared⟩
        simp [hb]
      | none =>
        simp only [Running.accept, Action.bind_apply, Action.get_apply, ha, hb, hf]
        exact .accepted socket hb rfl rfl
  | cleaning =>
    simp only [Running.accept, Action.bind_apply, Action.get_apply, ha]
    have h := Running.steady_changeHost Connection.Host.clean s
    exact .steady ⟨h.loops, h.backlog, h.shared⟩
  | joining =>
    by_cases hl : s.loops.all (·.isEnded)
    · simp only [Running.accept, Action.bind_apply, Action.get_apply, ha, hl, if_true]
      have h := IsTrans.trans _ _ _ (Running.steady_changeHost Connection.Host.abandon s)
        (Running.steady_refuseBacklog (s.changeHost Connection.Host.abandon))
      exact .steady ⟨h.loops, h.backlog, h.shared⟩
    · refine .steady ?_
      simp only [Running.accept, Action.bind_apply, Action.get_apply, ha, hl]
      exact Std.Refl.refl s

lemma effect_loop (env : Environment) (index size : Nat) (s : Running μ) :
    (Turn.move env (.loop index size)).Effect s (act s (.move env (.loop index size))) := by
  have hstate : act s (.move env (.loop index size)) = (Running.moveLoop env index size s).state :=
    rfl
  rw [hstate]
  unfold Running.moveLoop
  cases hl : s.loops[index]? with
  | none =>
    refine .steady ?_
    simp only [Action.bind_apply, Action.get_apply, hl]
    exact Std.Refl.refl s
  | some l =>
    refine .stepped env index size l rfl hl ?_ ?_ ?_
    · simp [hl, Running.onShared]
    · simp [hl, Running.onShared]
    · simp [hl, Running.onShared]

lemma effect (t : Turn μ) (s : Running μ) : t.Effect s (act s t) := by
  cases t with
  | modules change =>
    exact .steady ⟨rfl, List.Sublist.refl _, Shared.follows_of_same rfl rfl rfl⟩
  | move env what =>
    cases what with
    | connect => exact effect_connect env s
    | accept => exact effect_accept env s
    | loop index size => exact effect_loop env index size s
    | send socket bytes =>
      refine .steady (Running.keeps_onShared (Shared.keeps_changeSocket socket fun k => ?_) s)
      split <;> rfl
    | hangUp socket =>
      refine .steady (Running.keeps_onShared (Shared.keeps_changeSocket socket ?_) s)
      exact fun _ => rfl
    | breakDown socket detail =>
      refine .steady (Running.keeps_onShared (Shared.keeps_changeSocket socket ?_) s)
      exact fun _ => rfl
    | publish event => exact .steady (Running.keeps_onShared (Shared.keeps_changeBus _) s)
    | crashAccepting => exact .steady (Running.keeps_crashAccepting s)
    | deliver delivery =>
      exact .steady (Running.keeps_onShared (Shared.keeps_deliver env.now delivery) s)
    | stop => exact .steady (Running.keeps_stop env s)

/-- Whatever happens, the sessions that there were keep their records, which only age. -/
lemma ages (t : Turn μ) (s : Running μ) :
    s.shared.sessions.Ages (act s t).shared.sessions := by
  rcases t.effect s with hs | ⟨_, _, hs, _⟩ | ⟨_, _, _, hs⟩ | ⟨env, _, size, l, _, _, _, _, hs⟩
  · exact hs.shared.sessions.ages
  · exact hs ▸ Std.Refl.refl _
  · exact hs ▸ Std.Refl.refl _
  · exact hs ▸ Loop.ages_step env size s.shared

end Turn

/-! ## Turns in a row -/

namespace Running

variable [Device.DeviceModule μ]

/-- The server behind turns that happen one after the other. -/
def after (s : Running μ) (turns : List (Turn μ)) : Running μ := turns.foldl Turn.act s

@[simp] lemma after_nil (s : Running μ) : s.after [] = s := rfl

@[simp] lemma after_cons (s : Running μ) (t : Turn μ) (rest : List (Turn μ)) :
    s.after (t :: rest) = (Turn.act s t).after rest := rfl

@[simp] lemma after_append (s : Running μ) (turns rest : List (Turn μ)) :
    s.after (turns ++ rest) = (s.after turns).after rest :=
  List.foldl_append

lemma ages_after (s : Running μ) (turns : List (Turn μ)) :
    s.shared.sessions.Ages (s.after turns).shared.sessions := by
  induction turns generalizing s with
  | nil => exact Std.Refl.refl _
  | cons t rest ih => exact IsTrans.trans _ _ _ (t.ages s) (ih (Turn.act s t))

end Running

/-! ## Scripted turns -/

namespace Turn

/-- A peer connects. -/
def connect : Turn μ := .move .calm .connect

/-- A peer sends a message. -/
def send (socket : Nat) (message : Protocol.AgentMessage) : Turn μ :=
  .move .calm (.send ⟨socket⟩ message.line)

/-- A loop makes so many steps. -/
def steps (index count : Nat) : List (Turn μ) :=
  List.replicate count (.move .calm (.loop index 4096))

end Turn

end ManagementServer.Server
