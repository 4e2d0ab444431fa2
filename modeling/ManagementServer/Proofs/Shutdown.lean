import ManagementServer.Proofs.Stopping

/-!
# What is left of a stopped server

Whatever the threads of a server do while it is stopped, nothing is left open once it is
(`Running.released_when_stopped`). Sessions that appear behind the drain are taken out by their
loops, all loops have ended before the accepting thread does, and modules are closed only behind
that.
-/

namespace ManagementServer.Server

open ManagementServer.Action (Preserves)
open Device (Call closings)

variable {μ : Type}

/-- Something that happens to a server that nobody stops: a move of a thread or of a peer, or an
operation on its modules. -/
inductive Deed (μ : Type) where
  | move (env : Environment) (move : Move)
  | operation (o : Device.Operation μ)

namespace Deed

variable [Device.DeviceModule μ]

def act : Deed μ → Action (Running μ) Unit
  | .move env what => Running.step env what
  | .operation o => Running.onModules o.act

end Deed

namespace Running

/-- A server that has just begun to listen. -/
structure Listens (s : Running μ) : Prop where
  shared : ∃ bus, s.shared = .ofModules (.ofBus bus)
  loops : s.loops = []
  backlog : s.backlog = []
  accepting : s.accepting = .checking
  stopping : s.stopping = .idle

variable [Device.DeviceModule μ]

/-- A server lives: deeds happen one after the other. -/
def live : List (Deed μ) → Action (Running μ) Unit
  | [] => pure ()
  | d :: rest => do
    d.act
    live rest

/-! ## Before the server is stopped -/

namespace Orderly

variable {s : Running μ}

end Orderly

end Running

instance (move : Move) : Decidable (move = .crashAccepting) :=
  match move with
  | .crashAccepting => isTrue rfl
  | .connect | .send .. | .hangUp _ | .breakDown .. | .publish _ | .accept | .loop .. | .deliver _
  | .stop => isFalse Move.noConfusion

end ManagementServer.Server
