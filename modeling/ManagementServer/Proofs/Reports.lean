import ManagementServer.Catalog
import ManagementServer.Proofs.Action
import ManagementServer.Session.Registry

/-!
# What actions report

The reports of a composed action out of the reports of its parts, and `Action.Discreet`: an action
reports nothing. What is done with modules is reported by the catalog alone, never by the registry,
and the registry of sessions reports nothing either.
-/

namespace ManagementServer

variable {σ τ α β : Type}

/-- What an action reports. -/
def Result.reports (r : Result σ α) : List HealthEvent := r.journal.filterMap (·.report?)

@[simp] lemma Result.reports_nil (a : α) (s : σ) : reports ⟨a, s, []⟩ = [] := rfl

namespace Action

@[simp] lemma reports_bind (x : Action σ α) (f : α → Action σ β) (s : σ) :
    ((x >>= f) s).reports = (x s).reports ++ (f (x s).value (x s).state).reports :=
  List.filterMap_append

/-- Whatever the state, the action reports nothing. -/
def Discreet (x : Action σ α) : Prop := ∀ s, (x s).reports = []

namespace Discreet

lemma pure (a : α) : Discreet (Pure.pure a : Action σ α) := fun _ => rfl

lemma get : Discreet (Action.get : Action σ σ) := fun _ => rfl

lemma view (f : σ → α) : Discreet (Action.view f) := fun _ => rfl

lemma modify (f : σ → σ) : Discreet (Action.modify f) := fun _ => rfl

lemma emit {o : Occurrence} (h : o.report? = none) : Discreet (Action.emit o : Action σ Unit) := by
  intro s
  simp [Result.reports, h]

lemma log (level : Log.Level) (target : Log.Target) (message : String)
    (fields : List (String × Json)) :
    Discreet (Action.log level target message fields : Action σ Unit) :=
  emit rfl

lemma bind {x : Action σ α} {f : α → Action σ β} (hx : Discreet x) (hf : ∀ a, Discreet (f a)) :
    Discreet (x >>= f) := by
  intro s
  rw [reports_bind, hx, hf]
  rfl

lemma zoom {part : τ → σ} {put : σ → τ → τ} {x : Action σ α} (h : Discreet x) :
    Discreet (Action.zoom part put x) :=
  fun t => h (part t)

end Discreet

end Action

lemma Session.Registry.discreet_add (id username : String) (capabilities : CapabilitySet)
    (connection : ConnectionId) :
    Action.Discreet (Session.Registry.add id username capabilities connection) := by
  refine Action.Discreet.bind Action.Discreet.get fun r => ?_
  split
  · exact Action.Discreet.pure _
  · refine Action.Discreet.bind (Action.Discreet.view _) fun _ => ?_
    refine Action.Discreet.bind (Action.Discreet.modify _) fun _ => ?_
    exact Action.Discreet.bind (Action.Discreet.log _ _ _ _) fun _ => Action.Discreet.pure _

namespace Device.Registry

open ManagementServer.Action (Discreet)

variable {μ : Type}

lemma discreet_perform (env : Environment) (effects : List Effect) :
    Discreet (perform env effects : Action (Registry μ) Unit) := by
  induction effects with
  | nil => exact Discreet.pure ()
  | cons effect rest ih =>
    cases effect with
    | publish event body => exact Discreet.bind (Discreet.modify _) fun _ => ih
    | log record => exact Discreet.bind (Discreet.emit rfl) fun _ => ih

lemma discreet_setAllowed (name : String) (allowed : Bool) :
    Discreet (setAllowed name allowed : Action (Registry μ) _) := by
  refine Discreet.bind Discreet.get fun r => ?_
  cases r.getByName name with
  | error error => exact Discreet.pure _
  | ok e =>
    refine Discreet.bind (Discreet.modify _) fun _ => ?_
    exact Discreet.bind (Discreet.log _ _ _ _) fun _ => Discreet.pure _

variable [DeviceModule μ]

lemma discreet_add (env : Environment) (d : Descriptor) (module : μ) :
    Discreet (add env d module) := by
  have hinitialise : ∀ handle, Discreet (initialise env d handle module) := by
    intro handle
    refine Discreet.bind (Discreet.modify _) fun _ => ?_
    refine Discreet.bind (Discreet.emit rfl) fun _ => ?_
    refine Discreet.bind (discreet_perform env _) fun _ => ?_
    split
    · exact Discreet.pure _
    · exact Discreet.pure _
    · refine Discreet.bind (Discreet.log _ _ _ _) fun _ => ?_
      exact Discreet.bind (Discreet.modify _) fun _ => Discreet.pure _
  refine Discreet.bind Discreet.get fun r => ?_
  cases r.conflict? d with
  | some error => exact Discreet.pure _
  | none =>
    dsimp only
    split
    · exact Discreet.pure _
    · exact hinitialise _

lemma discreet_close (env : Environment) (e : Entry) :
    Discreet (close env e : Action (Registry μ) _) := by
  refine Discreet.bind (Discreet.emit rfl) fun _ => ?_
  refine Discreet.bind Discreet.get fun r => ?_
  cases r.instance? e.handle with
  | none => exact Discreet.pure _
  | some i =>
    dsimp only
    split
    · refine Discreet.bind (Discreet.modify _) fun _ => ?_
      refine Discreet.bind (discreet_perform env _) fun _ => ?_
      exact Discreet.bind (Discreet.log _ _ _ _) fun _ => Discreet.pure _
    · refine Discreet.bind (Discreet.modify _) fun _ => ?_
      exact Discreet.bind (discreet_perform env _) fun _ => Discreet.pure _

lemma discreet_unload (env : Environment) (handle : Handle) :
    Discreet (unload env handle : Action (Registry μ) _) := by
  refine Discreet.bind Discreet.get fun r => ?_
  cases r.getByHandle handle with
  | error error => exact Discreet.pure _
  | ok e =>
    refine Discreet.bind (Discreet.modify _) fun _ => ?_
    refine Discreet.bind (discreet_close env e) fun outcome => ?_
    cases outcome with
    | returned _ => exact Discreet.pure _
    | crashed => exact Discreet.pure _

lemma discreet_execute (env : Environment) (e : Entry) (session : SessionContext)
    (operation : String) (payload : Json) :
    Discreet (execute env e session operation payload : Action (Registry μ) _) := by
  refine Discreet.bind Discreet.get fun r => ?_
  cases r.instance? e.handle with
  | none => exact Discreet.pure _
  | some i =>
    dsimp only
    split
    · exact Discreet.bind (Discreet.log _ _ _ _) fun _ => Discreet.pure _
    · refine Discreet.bind (Discreet.emit rfl) fun _ => ?_
      split
      · refine Discreet.bind (Discreet.modify _) fun _ => ?_
        exact Discreet.bind (discreet_perform env _) fun _ => Discreet.pure _
      · refine Discreet.bind (Discreet.modify _) fun _ => ?_
        refine Discreet.bind (discreet_perform env _) fun _ => ?_
        exact Discreet.bind (Discreet.log _ _ _ _) fun _ => Discreet.pure _

lemma discreet_stateData (env : Environment) (e : Entry) :
    Discreet (stateData env e : Action (Registry μ) _) := by
  refine Discreet.bind Discreet.get fun r => ?_
  cases r.instance? e.handle with
  | none => exact Discreet.pure _
  | some i =>
    dsimp only
    split
    · exact Discreet.pure _
    · refine Discreet.bind (Discreet.emit rfl) fun _ => ?_
      split
      · refine Discreet.bind (Discreet.modify _) fun _ => ?_
        refine Discreet.bind (discreet_perform env _) fun _ => ?_
        split
        · exact Discreet.pure _
        · exact Discreet.pure _
      · refine Discreet.bind (Discreet.modify _) fun _ => ?_
        refine Discreet.bind (discreet_perform env _) fun _ => ?_
        exact Discreet.bind (Discreet.log _ _ _ _) fun _ => Discreet.pure _

end Device.Registry

end ManagementServer
