import ManagementServer.Device.Descriptor
import ManagementServer.Log.Record
import ManagementServer.Net.Address
import ManagementServer.Rpc.Reply
import ManagementServer.Session.Context
import ManagementServer.Time.Timestamp

/-!
# Device modules

What a device module is: something that can be initialised, asked to execute an operation, asked for
its state, and closed. A call may crash; what a module does beside answering, it does by effects,
which are carried out in order.
-/

namespace ManagementServer

/-- What the surroundings say at one moment: the time of the host's clock, the name of its system,
the kind of its processor, what host names stand for, and why no new thread can be started or no
further handle of a socket be had. -/
structure Environment where
  now : Time.Instant
  osName : String
  machine : String
  resolve : String → Except String (List Net.IpAddress)
  threadFault : Option String := none
  socketFault : Option String := none

/-- The addresses of a host: an address literal stands for itself. -/
def Environment.addresses (env : Environment) (host : String) :
    Except String (List Net.IpAddress) :=
  match Net.IpAddress.parse? host.toList with
  | some address => .ok [address]
  | none => env.resolve host

namespace Device

/-- What a module does in a call beside answering. -/
inductive Effect where
  | publish (event : String) (body : Json)
  | log (record : Log.Record)
  deriving Repr, Inhabited

/-- How a call ended. -/
inductive Outcome (α : Type) where
  | returned (value : α)
  | crashed
  deriving Repr

/-- How a call ended, the module as it is then, and what it did meanwhile. -/
structure Response (μ α : Type) where
  outcome : Outcome α
  module : μ
  effects : List Effect
  deriving Repr

/-- What a module is told when it is initialised. -/
structure Identity where
  handle : Handle
  name : String
  repository : Option Repository
  deriving DecidableEq, Repr, Inhabited

namespace Outcome

variable {α : Type}

/-- Whether a call crashed. -/
def isCrash : Outcome α → Bool
  | .crashed => true
  | .returned _ => false

/-- What a call that has not crashed has returned. -/
def get : (o : Outcome α) → o.isCrash = false → α
  | .returned a, _ => a
  | .crashed, h => Bool.noConfusion h

end Outcome

/-- Things that can be registered as modules. -/
class DeviceModule (μ : Type) where
  /-- Initialises a module; it answers with its configuration or says why it fails. -/
  init : Environment → Identity → μ → Response μ (Except String Json)
  /-- Executes an operation. -/
  execute : Environment → SessionContext → String → Json → μ → Response μ Rpc.Reply
  /-- Reports the state, or says why it cannot. -/
  state : Environment → μ → Response μ (Except String Json)
  /-- Ends the module. -/
  close : μ → Response μ Unit

/-- Modules that never crash when they are closed. -/
class SteadyModule (μ : Type) extends DeviceModule μ where
  close_returns : ∀ m : μ, (close m).outcome.isCrash = false

end Device

end ManagementServer
