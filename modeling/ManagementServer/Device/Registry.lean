import ManagementServer.Device.Error
import ManagementServer.Device.Module
import ManagementServer.Event.Bus
import ManagementServer.Journal

/-!
# The module registry

The modules that are loaded, in the order of their registration. A module that has crashed is not
called again but to be closed. Every call on a module is in the journal.

Main definitions: `Registry.add`, `Registry.unload`, `Registry.matching`, `Registry.execute`,
`Registry.stateData`, `Registry.unloadAll`. A module may crash while it is closed, and then so does
whoever closes it; `Registry.remove` and `Registry.closeAll` are the same for modules that do not.
-/

namespace ManagementServer

/-- What an action that never crashes comes to. -/
def Action.returning {σ α : Type} (x : Action σ (Device.Outcome α))
    (h : ∀ s, (x s).value.isCrash = false) : Action σ α := fun s =>
  let r := x s
  ⟨r.value.get (h s), r.state, r.journal⟩

namespace Device

/-- A registered module as the registry describes it. -/
structure Entry where
  handle : Handle
  descriptor : Descriptor
  deriving DecidableEq, Repr, Inhabited

/-- The name of a registered module. -/
def Entry.name (e : Entry) : String := e.descriptor.name

/-- The written form. -/
def Entry.encode (e : Entry) : Json :=
  .ofMembers
    [("handle", .ofNat e.handle.number), ("name", .string e.name),
      ("capabilities", e.descriptor.capabilities.encode),
      ("operations", .texts e.descriptor.operations),
      ("repository", .optional (e.descriptor.repository.map (·.name))),
      ("allowed", .bool e.descriptor.allowed)]

/-- A module that was handed to its initialiser, and whether it has crashed since. -/
structure Instance (μ : Type) where
  handle : Handle
  module : μ
  hasCrashed : Bool

/-- The registry: what is registered, the next handle, every module that was ever handed to its
initialiser, and the bus on which they publish. -/
structure Registry (μ : Type) where
  entries : List Entry
  nextHandle : Nat
  instances : List (Instance μ)
  bus : Event.Bus

namespace Registry

variable {μ : Type}

/-- A registry without modules. -/
def ofBus (bus : Event.Bus) : Registry μ := ⟨[], 0, [], bus⟩

/-- The registry of a new server. -/
def empty : Registry μ := ofBus (.ofCapacity Event.defaultCapacity)

/-- The first entry with a property. -/
def find? (r : Registry μ) (p : Entry → Bool) : Option Entry := r.entries.find? p

/-- Looks a module up by its handle. -/
def getByHandle (r : Registry μ) (handle : Handle) : Except ModuleError Entry :=
  match r.find? (·.handle == handle) with
  | some e => .ok e
  | none => .error (.notFound (.handle handle))

/-- Looks a module up by its name. -/
def getByName (r : Registry μ) (name : String) : Except ModuleError Entry :=
  match r.find? (·.name == name) with
  | some e => .ok e
  | none => .error (.notFound (.name name))

/-- Looks a module up by the repository that it owns. -/
def getByRepository (r : Registry μ) (repository : String) : Except ModuleError Entry :=
  match r.find? fun e => e.descriptor.repository.any (·.name == repository) with
  | some e => .ok e
  | none => .error (.notFound (.repository repository))

/-- Whether a module may be asked to execute an operation for a session. -/
def isEligible (operation : String) (capabilities : CapabilitySet) (e : Entry) : Bool :=
  e.descriptor.allowed && e.descriptor.implements operation &&
    e.descriptor.capabilities.intersects capabilities

/-- The modules that may be asked, in the order of their registration. -/
def matching (r : Registry μ) (operation : String) (capabilities : CapabilitySet) : List Entry :=
  r.entries.filter (isEligible operation capabilities)

/-- What the modules that may be asked can do together. -/
def capabilities (r : Registry μ) : CapabilitySet :=
  (r.entries.filter (·.descriptor.allowed)).foldl
    (fun acc e => acc.extend e.descriptor.capabilities) .empty

/-- The module of a handle. -/
def instance? (r : Registry μ) (handle : Handle) : Option (Instance μ) :=
  r.instances.find? (·.handle == handle)

/-- Puts a module back after a call. -/
def store (handle : Handle) (module : μ) (crashed : Bool) (r : Registry μ) : Registry μ :=
  { r with
    instances := r.instances.map fun i =>
      if i.handle == handle then { i with module, hasCrashed := i.hasCrashed || crashed } else i }

/-- Carries out what a module does beside answering. -/
def perform (env : Environment) : List Effect → Action (Registry μ) Unit
  | [] => pure ()
  | .publish event body :: rest => do
    Action.modify fun r => { r with bus := r.bus.publish (.at env.now event body) }
    perform env rest
  | .log record :: rest => do
    Action.emit (.logged record)
    perform env rest

/-- Why a descriptor cannot be registered now. -/
def conflict? (r : Registry μ) (d : Descriptor) : Option ModuleError :=
  match d.fault? with
  | some fault => some (.descriptor fault)
  | none =>
    if r.entries.any (·.name == d.name) then some (.duplicateModule d.name)
    else
      match d.repository with
      | none => none
      | some repository =>
        (r.find? (·.descriptor.repository == some repository)).map
          fun owner => .repositoryInUse repository.name owner.name

variable [DeviceModule μ]

/-- Initialises a module under a new handle and registers it. -/
def initialise (env : Environment) (d : Descriptor) (handle : Handle) (module : μ) :
    Action (Registry μ) (Outcome (Except ModuleError Handle)) := do
  let response := DeviceModule.init env ⟨handle, d.name, d.repository⟩ module
  let succeeded :=
    match response.outcome with
    | .returned (.ok _) => true
    | _ => false
  let crashed :=
    match response.outcome with
    | .crashed => true
    | _ => false
  Action.modify fun r =>
    { r with
      nextHandle := r.nextHandle + 1
      instances := r.instances ++ [⟨handle, response.module, crashed⟩] }
  Action.emit (.called (.initialised handle d.name d.repository succeeded))
  perform env response.effects
  match response.outcome with
  | .crashed => return .crashed
  | .returned (.error message) => return .returned (.error (.initFailed d.name message))
  | .returned (.ok running) =>
    Action.log .debug .moduleRegistry "module registered"
      [("module", .string d.name), ("handle", .string handle.text),
        ("running_config", .string running.render)]
    Action.modify fun r => { r with entries := r.entries ++ [⟨handle, d⟩] }
    return .returned (.ok handle)

/-- Registers a module. Names and owned repositories are unique, and handles are used once. -/
def add (env : Environment) (d : Descriptor) (module : μ) :
    Action (Registry μ) (Outcome (Except ModuleError Handle)) := do
  let r ← Action.get
  match r.conflict? d with
  | some error => return .returned (.error error)
  | none =>
    if Handle.bound ≤ r.nextHandle + 1 then return .returned (.error .handlesExhausted)
    else initialise env d ⟨r.nextHandle⟩ module

/-- Closes a module that is no longer registered, whether or not it has crashed before. -/
def close (env : Environment) (e : Entry) : Action (Registry μ) (Outcome Unit) := do
  Action.emit (.called (.closed e.handle e.name))
  match (← Action.get).instance? e.handle with
  | none => return .returned ()
  | some i =>
    let response := DeviceModule.close i.module
    match response.outcome with
    | .returned () =>
      Action.modify (store e.handle response.module false)
      perform env response.effects
      Action.log .debug .moduleRegistry "module closed"
        [("module", .string e.name), ("handle", .string e.handle.text)]
      return .returned ()
    | .crashed =>
      Action.modify (store e.handle response.module true)
      perform env response.effects
      return .crashed

/-- Unregisters a module and closes it. -/
def unload (env : Environment) (handle : Handle) :
    Action (Registry μ) (Outcome (Except ModuleError Unit)) := do
  match (← Action.get).getByHandle handle with
  | .error error => return .returned (.error error)
  | .ok e =>
    Action.modify fun r => { r with entries := r.entries.filter (·.handle != handle) }
    match ← close env e with
    | .crashed => return .crashed
    | .returned () => return .returned (.ok ())

/-- The entries with the permission of a module changed. -/
def allow (name : String) (allowed : Bool) : List Entry → List Entry
  | [] => []
  | e :: rest =>
    if e.name == name then { e with descriptor := { e.descriptor with allowed } } :: rest
    else e :: allow name allowed rest

/-- Says whether requests may reach a module. -/
def setAllowed (name : String) (allowed : Bool) :
    Action (Registry μ) (Except ModuleError Unit) := do
  match (← Action.get).getByName name with
  | .error error => return .error error
  | .ok _ =>
    Action.modify fun r => { r with entries := allow name allowed r.entries }
    Action.log .debug .moduleRegistry "module permission changed"
      [("module", .string name), ("allowed", .bool allowed)]
    return .ok ()

/-- The reply for a module that has crashed. -/
def unavailable (e : Entry) : Rpc.Reply :=
  .error (.failed (ModuleError.unavailable e.name).message)

/-- Asks a module to execute an operation. -/
def execute (env : Environment) (e : Entry) (session : SessionContext) (operation : String)
    (payload : Json) : Action (Registry μ) Rpc.Reply := do
  let fields := [("module", Json.string e.name), ("operation", Json.string operation)]
  match (← Action.get).instance? e.handle with
  | none => return unavailable e
  | some i =>
    if i.hasCrashed then
      Action.log .warn .moduleRegistry "skipping module poisoned by an earlier panic" fields
      return unavailable e
    Action.emit (.called (.executed e.handle e.name operation))
    let response := DeviceModule.execute env session operation payload i.module
    match response.outcome with
    | .returned reply =>
      Action.modify (store e.handle response.module false)
      perform env response.effects
      return reply
    | .crashed =>
      Action.modify (store e.handle response.module true)
      perform env response.effects
      Action.log .warn .moduleRegistry "module panicked while executing an operation" fields
      return unavailable e

/-- Asks a module for its state. -/
def stateData (env : Environment) (e : Entry) :
    Action (Registry μ) (Except ModuleError Json) := do
  match (← Action.get).instance? e.handle with
  | none => return .error (.unavailable e.name)
  | some i =>
    if i.hasCrashed then return .error (.unavailable e.name)
    Action.emit (.called (.stateRead e.handle e.name))
    let response := DeviceModule.state env i.module
    match response.outcome with
    | .returned answer =>
      Action.modify (store e.handle response.module false)
      perform env response.effects
      match answer with
      | .ok value => return .ok value
      | .error message => return .error (.stateData e.name message)
    | .crashed =>
      Action.modify (store e.handle response.module true)
      perform env response.effects
      Action.log .warn .moduleRegistry "module panicked while reporting state data"
        [("module", .string e.name)]
      return .error (.unavailable e.name)

/-- Closes modules one after the other, up to one that crashes. -/
def closeEach (env : Environment) : List Entry → Action (Registry μ) (Outcome Unit)
  | [] => pure (.returned ())
  | e :: rest => do
    match ← close env e with
    | .crashed => return .crashed
    | .returned () => closeEach env rest

/-- Unregisters every module and returns what was registered. -/
def takeAll : Action (Registry μ) (List Entry) := fun r =>
  ⟨r.entries, { r with entries := [] }, []⟩

/-- Unregisters every module and closes them, the last registered first. Returns their number. -/
def unloadAll (env : Environment) : Action (Registry μ) (Outcome Nat) := do
  let entries ← takeAll
  match ← closeEach env entries.reverse with
  | .crashed => return .crashed
  | .returned () => return .returned entries.length

section Steady

variable {μ : Type} [SteadyModule μ]

theorem close_value (env : Environment) (e : Entry) (r : Registry μ) :
    (close env e r).value = .returned () := by
  cases hi : r.instance? e.handle with
  | none => simp [close, bind, pure, Action.get, Action.emit, hi]
  | some i =>
    have hreturns := SteadyModule.close_returns i.module
    cases ho : (DeviceModule.close i.module).outcome with
    | crashed =>
      rw [ho] at hreturns
      cases hreturns
    | returned _ => simp [close, bind, pure, Action.get, Action.emit, hi, ho]

theorem closeEach_value (env : Environment) (es : List Entry) (r : Registry μ) :
    (closeEach env es r).value = .returned () := by
  induction es generalizing r with
  | nil => rfl
  | cons e rest ih => simp [closeEach, bind, close_value, ih]

theorem unload_isCrash (env : Environment) (handle : Handle) (r : Registry μ) :
    (unload env handle r).value.isCrash = false := by
  cases hg : r.getByHandle handle with
  | error error => simp [unload, bind, pure, Action.get, hg, Outcome.isCrash]
  | ok e => simp [unload, bind, pure, Action.get, hg, close_value, Outcome.isCrash]

theorem unloadAll_isCrash (env : Environment) (r : Registry μ) :
    (unloadAll env r).value.isCrash = false := by
  simp [unloadAll, bind, pure, closeEach_value, Outcome.isCrash]

/-- Unregisters a module and closes it. -/
def remove (env : Environment) (handle : Handle) :
    Action (Registry μ) (Except ModuleError Unit) :=
  (unload env handle).returning (unload_isCrash env handle)

/-- Unregisters every module and closes them, the last registered first. Returns their number. -/
def closeAll (env : Environment) : Action (Registry μ) Nat :=
  (unloadAll env).returning (unloadAll_isCrash env)

end Steady

end Registry

end Device

end ManagementServer
