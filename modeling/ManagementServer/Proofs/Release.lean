import ManagementServer.Daemon.Run
import ManagementServer.Proofs.CatalogSync
import ManagementServer.Proofs.ModuleLifetimes
import ManagementServer.Proofs.Stopping

/-!
# Modules and the life of a server

What a server has initialised it closes before it returns, however it ends, unless it could not
listen (`Daemon.releases_before_return`). Then whatever was loaded stays open.
-/

deriving instance DecidableEq for ManagementServer.Device.Outcome

namespace ManagementServer.Server.Running

open ManagementServer.Action (Preserves)
open Device (Call)

variable {μ : Type}

/-- The modules with all that are open: those that are registered, and those that stopping the
server has taken out of the registry and is still to close. -/
def openModules (s : Running μ) : Device.Registry μ :=
  { s.shared.modules with
    entries := s.stopping.unclosed.reverse ++ s.shared.modules.entries }

/-- What holds of the modules of a server that is stopped, with the module calls so far. Only a
module that crashes when it is closed leaves others open. -/
structure Keeps (s : Running μ) (history : List Call) : Prop where
  sound : s.openModules.Sound history
  balanced : s.stopping ≠ .crashed → s.openModules.Balanced history
  emptied : s.stopping.hasUnloaded → s.shared.modules.entries = []

lemma serves_openModules {s s' : Running μ} {calls : List Call}
    (hm : s.shared.modules.Serves s'.shared.modules calls)
    (hu : s'.stopping.unclosed = s.stopping.unclosed) :
    s.openModules.Serves s'.openModules calls := by
  refine ⟨?_, hm.nextHandle, hm.handles, hm.requests⟩
  rw [openModules, openModules, hu, hm.entries]

lemma Keeps.alters {s s' : Running μ} {history calls : List Call} {left : List Device.Entry}
    (h : s.Keeps history) (ha : s.openModules.Alters s'.openModules calls left)
    (hc : s'.stopping ≠ .crashed → s.stopping ≠ .crashed ∧ left = [])
    (he : s'.stopping.hasUnloaded → s'.shared.modules.entries = []) :
    s'.Keeps (history ++ calls) := by
  refine ⟨h.sound.alters ha, fun hs => ?_, he⟩
  obtain ⟨hbefore, rfl⟩ := hc hs
  exact (h.balanced hbefore).alters ha

variable [Device.DeviceModule μ]

lemma alters_openModules (env : Environment) {s s' : Running μ} {e : Device.Entry}
    {rest unclosed left : List Device.Entry} (hs : s.stopping.unclosed = e :: rest)
    (hm : s'.shared.modules = (Device.Registry.close env e s.shared.modules).state)
    (hu : s'.stopping.unclosed = unclosed) (hrest : left ++ unclosed = rest) :
    s.openModules.Alters s'.openModules [e.closing] left := by
  have htouches := (Device.Registry.close_spec env e s.shared.modules).1
  have hbefore : s.openModules.entries =
      unclosed.reverse ++ (left.reverse ++ ([e] ++ s.shared.modules.entries)) := by
    simp [openModules, hs, ← hrest]
  have hbehind : s'.openModules.entries = unclosed.reverse ++ s.shared.modules.entries := by
    rw [openModules, hm, hu, htouches.entries]
  change s.openModules.Alters s'.openModules ([e].map (·.closing)) left
  refine .closes ?_ ?_ ?_ ?_
  · rw [hbefore, hbehind]
    refine (List.Sublist.refl _).append ?_
    exact (List.sublist_append_right _ _).trans (List.sublist_append_right _ _)
  · rw [hbefore, hbehind]
    refine (List.perm_append_comm_assoc _ _ _).trans ?_
    refine (left.reverse_perm.append (List.perm_append_comm_assoc _ _ _)).trans ?_
    exact List.perm_append_comm_assoc _ _ _
  · rw [openModules, hm]
    exact htouches.nextHandle
  · rw [openModules, hm]
    exact htouches.handles

lemma Keeps.unloads {s s' : Running μ} {history calls : List Call} (h : s.Keeps history)
    (hu : Unloading s s' calls) : s'.Keeps (history ++ calls) := by
  cases hu with
  | keeps modules unclosed unloaded crashed waited =>
    refine h.alters (.serves (serves_openModules modules unclosed)) ?_ ?_
    · exact fun hs => ⟨fun hc => hs (crashed hc), rfl⟩
    · rw [unloaded, modules.entries]
      exact h.emptied
  | takes waited loaded modules unclosed unloaded =>
    have hsame : s'.openModules = s.openModules := by
      simp [openModules, modules, unclosed, Stopping.unclosed_of_loaded loaded]
    refine h.alters (hsame ▸ Device.Registry.alters_refl _) (fun _ => ⟨?_, rfl⟩) fun _ => ?_
    · intro hc
      rw [hc] at loaded
      cases loaded
    · rw [modules]
  | closes env e rest modules unclosed unloaded left =>
    have hcrash := Stopping.ne_crashed_of_unclosed unclosed
    have hempty : s'.shared.modules.entries = [] := by
      rw [modules, (Device.Registry.close_spec env e s.shared.modules).1.entries]
      exact h.emptied unloaded.1
    rcases left with hrest | ⟨hnone, hcrashed⟩
    · exact h.alters (alters_openModules env unclosed modules hrest (List.nil_append rest))
        (fun _ => ⟨hcrash, rfl⟩) fun _ => hempty
    · exact h.alters (alters_openModules env unclosed modules hnone (List.append_nil rest))
        (fun hs => absurd hcrashed hs) fun _ => hempty

lemma keeps_step (env : Environment) (move : Move) :
    Preserves Keeps (step env move : Action (Running μ) Unit) := by
  intro s history h
  by_cases hm : move = .stop
  · subst hm
    exact h.unloads (unloading_stop env s)
  · obtain ⟨hserves, hstopping⟩ := modules_step env s hm
    refine h.alters (.serves (serves_openModules hserves (by rw [hstopping]))) ?_ ?_
    · rw [hstopping]
      exact fun hs => ⟨hs, rfl⟩
    · rw [hstopping, hserves.entries]
      exact h.emptied

lemma keeps_run (moves : List (Environment × Move)) :
    Preserves Keeps (run moves : Action (Running μ) Unit) := by
  induction moves with
  | nil => exact Preserves.pure ()
  | cons x rest ih => exact Preserves.bind (keeps_step x.1 x.2) fun _ => ih

omit [Device.DeviceModule μ] in
/-- Behind the stop every module that was open is closed. -/
lemma Keeps.closings_eq {s : Running μ} {history : List Call} (h : s.Keeps history)
    (hs : s.stopping = .stopped) (handle : Device.Handle) :
    Device.closings handle history = Device.openings handle history := by
  have hentries : s.openModules.entries = [] := by
    rw [openModules, hs, h.emptied (by rw [hs]; rfl)]
    rfl
  have hbalanced := h.balanced (by rw [hs]; exact Stopping.noConfusion)
  have hcomplete := hbalanced.complete handle
  rw [hentries] at hcomplete
  exact hcomplete.symm

/-! ## The moves that are made by themselves -/

lemma settleWithin_eq_run (env : Environment) (last fuel : Nat) (s : Running μ) :
    ∃ moves, settleWithin env last fuel s = run moves s := by
  induction fuel generalizing last s with
  | zero => exact ⟨[], rfl⟩
  | succ fuel ih =>
    cases hn : s.next? env.now last with
    | none =>
      refine ⟨[], ?_⟩
      simp [settleWithin, hn, run]
    | some move =>
      have hcons : ∃ next, settleWithin env last (fuel + 1) s =
          (step env move >>= fun _ => settleWithin env next fuel) s := by
        cases move with
        | loop index size => exact ⟨index, by simp [settleWithin, hn]⟩
        | _ => exact ⟨last, by simp [settleWithin, hn]⟩
      obtain ⟨next, hnext⟩ := hcons
      obtain ⟨rest, hrest⟩ := ih next (step env move s).state
      refine ⟨(env, move) :: rest, ?_⟩
      simp only [hnext, run, Action.bind_apply, hrest]

/-- Stopping a server lets its threads move in one of the orders in which they can. -/
lemma shutdown_eq_run (env : Environment) (s : Running μ) : ∃ moves,
    shutdown env s = ⟨match (run moves s).state.stopping, (run moves s).state.accepting with
      | .crashed, _ => .crashed
      | _, .crashed => .returned (.error .threadPanic)
      | _, _ => .returned (.ok ()), (run moves s).state, (run moves s).journal⟩ := by
  obtain ⟨rest, hrest⟩ := settleWithin_eq_run env 0 (effort (stop env s).state) (stop env s).state
  refine ⟨(env, .stop) :: rest, ?_⟩
  have hrun : run ((env, .stop) :: rest) s =
      ⟨(), (run rest (stop env s).state).state,
        (stop env s).journal ++ (run rest (stop env s).state).journal⟩ := rfl
  have hsettle : settle env (stop env s).state = run rest (stop env s).state := by
    rw [← hrest]
    rfl
  rw [hrun]
  unfold shutdown
  rw [Action.bind_apply, Action.bind_apply, hsettle]
  generalize run rest (stop env s).state = r
  cases hs : r.state.stopping with
  | crashed => simp [hs]
  | _ => cases ha : r.state.accepting <;> simp [hs, ha]

end ManagementServer.Server.Running

namespace ManagementServer.Startup

open Device (Call DeviceModule Implementations Outcome Registry)
open Server (Running)

variable {μ α β : Type}

/-- What an action comes to, given the modules that it finds: its value and its module calls. -/
def Comes (P : Registry μ → α → List Call → Prop) (x : Action (Running μ) α) : Prop :=
  ∀ s, P s.shared.modules (x s).value (x s).calls

lemma Comes.bind {P : Registry μ → β → List Call → Prop} {x : Action (Running μ) α}
    {f : α → Action (Running μ) β} (hx : ∀ s, (x s).state.shared.modules = s.shared.modules)
    (hc : ∀ s, (x s).calls = []) (hf : ∀ a, Comes P (f a)) : Comes P (x >>= f) := by
  intro s
  rw [Action.calls_bind, hc, List.nil_append]
  have h := hf (x s).value (x s).state
  rw [hx] at h
  exact h

variable [DeviceModule μ]

/-- Either the start fails before a module is loaded, or a manifest is applied and it goes on. -/
def Boots (env : Environment) (f : Implementations μ) (r : Registry μ)
    (value : Outcome (Except Error Settings.Config)) (calls : List Call) : Prop :=
  (∃ error, value = .returned (.error error) ∧ calls = []) ∨
    ∃ manifest, calls = (Catalog.sync env f manifest r).calls ∧
      ∀ error, value ≠ .returned (.error error)

lemma boots_fail (env : Environment) (f : Implementations μ) (error : Error) :
    Comes (Boots env f) (fail error : Action (Running μ) _) :=
  fun _ => .inl ⟨error, rfl, rfl⟩

lemma boots_bootstrap (env : Environment) (f : Implementations μ)
    (loaded : Except Settings.LoadError Settings.Config) :
    Comes (Boots env f) (bootstrap env f loaded) := by
  refine Comes.bind (fun _ => rfl) (fun _ => rfl) fun _ => ?_
  split
  · exact boots_fail env f _
  · split
    · exact boots_fail env f _
    · refine Comes.bind (fun _ => rfl) (fun _ => rfl) fun s => ?_
      refine Comes.bind (fun _ => rfl) (fun _ => rfl) fun _ => ?_
      split
      · exact boots_fail env f _
      · split
        · exact boots_fail env f _
        · rename_i manifest _
          intro s
          right
          refine ⟨manifest, ?_, fun error he => ?_⟩
          · rw [Action.calls_bind]
            cases (Running.onModules (Catalog.sync env f manifest) s).value with
            | crashed => exact List.append_nil _
            | returned summary => exact List.append_nil _
          · rw [Action.bind_apply] at he
            cases hv : (Running.onModules (Catalog.sync env f manifest) s).value with
            | crashed =>
              rw [hv] at he
              cases he
            | returned summary =>
              rw [hv] at he
              cases he

end ManagementServer.Startup

namespace ManagementServer.Connection.Host

lemma createSocket_ne_threadPanic (path : String) (h : Host) :
    h.createSocket path ≠ .error .threadPanic := by
  unfold createSocket
  cases h.files.locate false (Files.Path.steps path) with
  | error =>
    intro hc
    cases hc
  | ok place =>
    dsimp only
    split
    · intro hc
      cases hc
    · intro hc
      cases hc

lemma bindTcp_ne_threadPanic (env : Environment) (host : String) (port : Nat) (h : Host) :
    h.bindTcp env host port ≠ .error .threadPanic := by
  unfold bindTcp
  cases env.addresses host with
  | error =>
    intro hc
    cases hc
  | ok addresses =>
    cases addresses with
    | nil =>
      intro hc
      cases hc
    | cons address =>
      dsimp only
      generalize (if port == 0 then h.freePort address else port) = picked
      split
      · intro hc
        cases hc
      · intro hc
        cases hc

/-- Whoever cannot listen has not listened yet. -/
lemma bind_ne_threadPanic (env : Environment) (endpoint : Settings.Endpoint) (h : Host) :
    h.bind env endpoint ≠ .error .threadPanic := by
  cases endpoint with
  | tcp host port => exact bindTcp_ne_threadPanic env host port h
  | unix path =>
    unfold bind bindUnix
    dsimp only
    split
    · exact createSocket_ne_threadPanic path h
    · split
      · split
        · intro hc
          cases hc
        · split
          · intro hc
            cases hc
          · exact createSocket_ne_threadPanic path _
      · intro hc
        cases hc

end ManagementServer.Connection.Host

namespace ManagementServer.Daemon

open ManagementServer.Action (Preserves)
open Device (Call DeviceModule Implementations Outcome Registry openings closings)
open Server (Running)

variable {μ α : Type}

/-- Whether an error says that the server could not listen. -/
def LaunchError.isListenFailure : LaunchError → Bool
  | .listener cause => cause != .threadPanic
  | _ => false

lemma LaunchError.isListenFailure_ofStartup (error : Startup.Error) :
    (ofStartup error).isListenFailure = false := by
  cases error <;> rfl

lemma listen_spec [DeviceModule μ] (env : Environment) (config : Settings.Config) (s : Running μ) :
    (Startup.listen env config s).calls = [] ∧
      ∀ error, (Startup.listen env config s).value = .error error → error ≠ .threadPanic := by
  unfold Startup.listen
  cases hb : s.host.bind env config.endpoint with
  | error error =>
    simp only [Action.bind_apply, Action.get_apply, hb]
    refine ⟨rfl, fun other he => ?_⟩
    rintro rfl
    cases he
    exact Connection.Host.bind_ne_threadPanic env config.endpoint s.host hb
  | ok bound =>
    obtain ⟨listener, host⟩ := bound
    simp only [Action.bind_apply, Action.get_apply, hb]
    cases env.threadFault with
    | some detail =>
      refine ⟨rfl, fun other he => ?_⟩
      cases he
      exact Connection.ListenerError.noConfusion
    | none => exact ⟨rfl, fun other he => nomatch he⟩

/-! ## From the start to the stop -/

/-- Nobody stops the server. -/
structure Idles (s : Running μ) (history : List Call) : Prop where
  idle : s.stopping = .idle
  modules : s.shared.modules.Balanced history

lemma Idles.of_same {s s' : Running μ} {history : List Call} (h : Idles s history)
    (hs : s'.stopping = s.stopping) (hm : s'.shared.modules = s.shared.modules) :
    Idles s' history :=
  ⟨hs.trans h.idle, hm ▸ h.modules⟩

lemma idles_ofHost (host : Connection.Host) : Idles (Running.ofHost host : Running μ) [] :=
  ⟨rfl, Registry.balanced_ofBus _⟩

lemma idles_onModules {x : Action (Registry μ) α} (h : Preserves Registry.Balanced x) :
    Preserves Idles (Running.onModules x : Action (Running μ) α) :=
  fun s history hs => ⟨hs.idle, h s.shared.modules history hs.modules⟩

lemma idles_changeFiles (f : Files.Tree → Files.Tree) :
    Preserves Idles (Running.changeFiles f : Action (Running μ) Unit) :=
  Preserves.modify fun _ _ h => h.of_same rfl rfl

lemma Idles.keeps {s : Running μ} {history : List Call} (h : Idles s history) :
    s.Keeps history := by
  have hsame : s.openModules = s.shared.modules := by
    rw [Running.openModules, h.idle]
    rfl
  refine ⟨hsame ▸ h.modules.toSound, fun _ => hsame ▸ h.modules, fun hu => ?_⟩
  rw [h.idle] at hu
  cases hu

section Steps

variable [DeviceModule μ]

lemma idles_bootstrap (env : Environment) (f : Implementations μ)
    (loaded : Except Settings.LoadError Settings.Config) :
    Preserves Idles (Startup.bootstrap env f loaded) := by
  have hfail : ∀ error, Preserves Idles (Startup.fail error : Action (Running μ)
      (Outcome (Except Startup.Error Settings.Config))) :=
    fun _ => Preserves.bind (Preserves.emit rfl) fun _ => Preserves.pure _
  refine Preserves.bind (Preserves.emit rfl) fun _ => ?_
  split
  · exact hfail _
  · split
    · exact hfail _
    · refine Preserves.bind Preserves.get fun s => ?_
      refine Preserves.bind (idles_changeFiles _) fun _ => ?_
      split
      · exact hfail _
      · split
        · exact hfail _
        · refine Preserves.bind (idles_onModules (Catalog.balanced_sync env f _)) fun outcome => ?_
          split
          · exact Preserves.pure _
          · exact Preserves.bind (Preserves.emit rfl) fun _ => Preserves.pure _

omit [DeviceModule μ] in
lemma idles_listen (env : Environment) (config : Settings.Config) :
    Preserves Idles (Startup.listen env config : Action (Running μ) _) := by
  refine Preserves.bind Preserves.get fun s => ?_
  split
  · exact Preserves.pure _
  · split
    · exact Preserves.bind (Preserves.modify fun _ _ h => h.of_same rfl rfl) fun _ =>
        Preserves.pure _
    · refine Preserves.bind (Preserves.modify fun _ _ h => h.of_same rfl rfl) fun _ => ?_
      exact Preserves.bind (Preserves.log _ _ _ _) fun _ => Preserves.pure _

lemma idles_start (env : Environment) (f : Implementations μ)
    (loaded : Except Settings.LoadError Settings.Config) :
    Preserves Idles (start env f loaded) := by
  refine Preserves.bind (idles_bootstrap env f loaded) fun outcome => ?_
  split
  · exact Preserves.pure _
  · exact Preserves.pure _
  · refine Preserves.bind (idles_listen env _) fun bound => ?_
    split
    · exact Preserves.pure _
    · exact Preserves.bind (Preserves.log _ _ _ _) fun _ => Preserves.pure _

lemma idles_receive (env : Environment) (f : Implementations μ) (config : Settings.Config)
    (number : Int) : Preserves Idles (receive env f config number) := by
  have hreload : Preserves Idles (reload env f config) := by
    refine Preserves.bind ?_ fun outcome => ?_
    · refine Preserves.bind Preserves.get fun s => ?_
      split
      · exact Preserves.pure _
      · refine Preserves.bind (idles_onModules (Catalog.balanced_sync env f _)) fun outcome => ?_
        split
        · exact Preserves.pure _
        · exact Preserves.pure _
    · split
      · exact Preserves.pure _
      · exact Preserves.bind (Preserves.log _ _ _ _) fun _ => Preserves.pure _
      · exact Preserves.bind (Preserves.log _ _ _ _) fun _ => Preserves.pure _
  unfold receive
  split
  · exact Preserves.bind (Preserves.log _ _ _ _) fun _ => Preserves.pure _
  · refine Preserves.bind (Preserves.log _ _ _ _) fun _ => ?_
    refine Preserves.bind hreload fun outcome => ?_
    split
    · exact Preserves.pure _
    · exact Preserves.pure _
  · exact Preserves.pure _
  · exact Preserves.pure _

/-- Whether something that happens is a step of stopping the server. -/
def Wake.isStop : Wake → Bool
  | .move .stop => true
  | _ => false

lemma idles_await (f : Implementations μ) (config : Settings.Config)
    {wakes : List (Environment × Wake)} (h : ∀ x ∈ wakes, x.2.isStop = false) :
    Preserves Idles (await f config wakes) := by
  induction wakes with
  | nil => exact Preserves.pure _
  | cons x rest ih =>
    obtain ⟨env, wake⟩ := x
    have hrest : ∀ x ∈ rest, x.2.isStop = false := fun x hx => h x (List.mem_cons_of_mem _ hx)
    cases wake with
    | signal number =>
      refine Preserves.bind (idles_receive env f config number) fun outcome => ?_
      split
      · exact Preserves.pure _
      · exact Preserves.pure _
      · exact ih hrest
    | move move =>
      refine Preserves.bind ?_ fun _ => ih hrest
      intro s history hs
      have hm : move ≠ .stop := by
        rintro rfl
        exact Bool.noConfusion (h _ List.mem_cons_self)
      obtain ⟨hserves, hstopping⟩ := Running.modules_step env s hm
      exact ⟨hstopping.trans hs.idle, hs.modules.alters (.serves hserves)⟩
    | files tree => exact Preserves.bind (idles_changeFiles _) fun _ => ih hrest

/-! ## Starts that fail -/

lemma isClosing_loadAll (env : Environment) (f : Implementations μ) (p : Catalog.Progress)
    (xs : List Manifest.Entry) :
    Preserves (fun _ calls => ∀ c ∈ calls, c.isClosing = false) (Catalog.loadAll env f p xs) := by
  have hadd : ∀ x, Preserves (fun _ calls => ∀ c ∈ calls, c.isClosing = false)
      (Catalog.add env f x) := by
    intro x
    unfold Catalog.add
    split
    · exact Preserves.pure _
    · rename_i module _
      intro r calls h
      rcases Registry.add_spec env (Catalog.descriptorFor x) module r with ⟨error, he⟩ |
        ⟨outcome, -, -, hc⟩
      · rw [he, Result.calls_nil, List.append_nil]
        exact h
      · rw [hc]
        intro c hm
        rcases List.mem_append.mp hm with hm | hm
        · exact h c hm
        · rw [List.mem_singleton.mp hm]
          rfl
  induction xs generalizing p with
  | nil => exact Preserves.pure _
  | cons x rest ih =>
    refine Preserves.bind Preserves.get fun r => ?_
    split
    · exact ih p
    · refine Preserves.bind (Preserves.bind (hadd x) fun outcome => ?_) fun outcome => ?_
      · split
        · exact Preserves.pure _
        · exact Preserves.bind (Preserves.emit rfl) fun _ => Preserves.pure _
        · exact Preserves.bind (Preserves.emit rfl) fun _ => Preserves.pure _
      · split
        · exact Preserves.pure _
        · exact ih _

/-- The first pass over a manifest has nothing to close. -/
lemma closings_sync (env : Environment) (f : Implementations μ) (m : Manifest) {r : Registry μ}
    (h : r.entries = []) (handle : Device.Handle) :
    closings handle (Catalog.sync env f m r).calls = 0 := by
  have hrevise : Catalog.reviseAll env m .start r.entries r = ⟨.returned .start, r, []⟩ := by
    rw [h]
    rfl
  obtain ⟨-, hcalls, -⟩ := Catalog.sync_spec env f m r hrevise rfl rfl
  rw [hcalls, Result.calls_nil, List.nil_append]
  refine Device.closings_eq_zero fun c hc => ?_
  have hquiet := isClosing_loadAll env f .start m.modules r [] (fun _ hm => nomatch hm) c
  rw [List.nil_append] at hquiet
  cases c with
  | closed => exact Bool.noConfusion (hquiet hc)
  | _ => rfl

/-- A start that fails has called no module, or it could not listen. -/
lemma start_error (env : Environment) (f : Implementations μ)
    (loaded : Except Settings.LoadError Settings.Config) {s : Running μ} {error : LaunchError}
    (h : (start env f loaded s).value = .returned (.error error)) :
    error.isListenFailure = false ∧ (start env f loaded s).calls = [] ∨
      error.isListenFailure ∧ ∃ manifest,
        (start env f loaded s).calls = (Catalog.sync env f manifest s.shared.modules).calls := by
  unfold start at h ⊢
  have hboots := Startup.boots_bootstrap env f loaded s
  rw [Action.calls_bind]
  rw [Action.bind_apply] at h
  dsimp only at h
  rcases hboots with ⟨cause, hv, hc⟩ | ⟨manifest, hc, hn⟩
  · rw [hv] at h ⊢
    cases h
    exact .inl ⟨LaunchError.isListenFailure_ofStartup cause, by rw [hc]; rfl⟩
  · cases hv : (Startup.bootstrap env f loaded s).value with
    | crashed =>
      rw [hv] at h
      cases h
    | returned started =>
      cases started with
      | error cause => exact absurd hv (hn cause)
      | ok config =>
        -- A manifest was applied, so only listening can have failed.
        right
        rw [hv] at h
        dsimp only at h ⊢
        obtain ⟨hlisten, hcause⟩ := listen_spec env config (Startup.bootstrap env f loaded s).state
        rw [Action.bind_apply] at h
        rw [Action.calls_bind, hlisten, hc]
        cases hb : (Startup.listen env config (Startup.bootstrap env f loaded s).state).value with
        | error cause =>
          rw [hb] at h
          cases h
          refine ⟨?_, manifest, List.append_nil _⟩
          simpa [LaunchError.isListenFailure] using hcause cause hb
        | ok endpoint =>
          rw [hb] at h
          cases h

end Steps

/-! ## Whole runs -/

section Runs

variable [DeviceModule μ]

/-- Stops a server with moves in the given order. Nothing is returned before the server is
stopped. -/
def finishThrough (moves : List (Environment × Server.Move)) (waited : Except String Unit) :
    Action (Running μ) (Option (Except LaunchError Unit)) := do
  Running.run moves
  let s ← Action.get
  match s.stopping with
  | .stopped =>
    match waited with
    | .error detail => return some (.error (.shutdown detail))
    | .ok () =>
      match s.accepting with
      | .crashed => return some (.error (.listener .threadPanic))
      | _ =>
        Action.log .info .process "shutdown sequence completed" []
        return some (.ok ())
  | _ => return none

/-- Lets a server run until it is asked to end, and stops it with moves in the given order. -/
def stopThrough (f : Implementations μ) (config : Settings.Config)
    (signals : Except String (List (Environment × Wake)))
    (moves : List (Environment × Server.Move)) :
    Action (Running μ) (Option (Except LaunchError Unit)) :=
  match signals with
  | .error detail => finishThrough moves (.error detail)
  | .ok wakes => do
    match ← await f config wakes with
    | .crashed => return none
    | .returned () => finishThrough moves (.ok ())

/-- Runs a server from its start to its end, with the moves that stop it in the given order. Nothing
is returned if a module takes the server with it, or before the server is stopped. -/
def runThrough (env : Environment) (f : Implementations μ)
    (loaded : Except Settings.LoadError Settings.Config)
    (signals : Except String (List (Environment × Wake)))
    (moves : List (Environment × Server.Move)) :
    Action (Running μ) (Option (Except LaunchError Unit)) := do
  match ← start env f loaded with
  | .crashed => return none
  | .returned (.error error) => return some (.error error)
  | .returned (.ok config) => stopThrough f config signals moves

/-- Whether a run ended because the server could not listen. -/
def isListenFailure : Except LaunchError Unit → Bool
  | .error error => error.isListenFailure
  | .ok () => false

/-- What a run has done to the modules by the time it returns, with all the calls on modules: it has
closed once what was initialised with success, and nothing else; but if it could not listen, it has
closed nothing, and what it has loaded is registered still. -/
structure Releases (value : Except LaunchError Unit) (s : Running μ) (calls : List Call) :
    Prop where
  once : ∀ handle, openings handle calls ≤ 1
  released : isListenFailure value = false → ∀ handle, closings handle calls = openings handle calls
  left : isListenFailure value → ∀ handle, closings handle calls = 0 ∧
    openings handle calls = (s.shared.modules.entries.map (·.handle)).count handle

/-- What is returned is returned behind the stop, with no call of its own. -/
lemma finishThrough_some {moves : List (Environment × Server.Move)} {waited : Except String Unit}
    {s : Running μ} {value : Except LaunchError Unit}
    (h : (finishThrough moves waited s).value = some value) :
    (finishThrough moves waited s).state.stopping = .stopped ∧ isListenFailure value = false ∧
      (finishThrough moves waited s).state = (Running.run moves s).state ∧
      (finishThrough moves waited s).calls = (Running.run moves s).calls := by
  unfold finishThrough at h ⊢
  rw [Action.calls_bind]
  simp only [Action.bind_apply, Action.get_apply] at h ⊢
  generalize Running.run moves s = r at h ⊢
  cases hs : r.state.stopping with
  | stopped =>
    rw [hs] at h
    cases waited with
    | error detail =>
      cases h
      exact ⟨hs, rfl, rfl, List.append_nil _⟩
    | ok _ =>
      cases ha : r.state.accepting with
      | _ =>
        rw [ha] at h
        cases h
        exact ⟨hs, rfl, rfl, List.append_nil _⟩
  | _ =>
    rw [hs] at h
    cases h

lemma releases_finishThrough {moves : List (Environment × Server.Move)}
    {waited : Except String Unit} {s : Running μ} {history : List Call} (h : Idles s history)
    {value : Except LaunchError Unit} (hv : (finishThrough moves waited s).value = some value) :
    Releases value (finishThrough moves waited s).state
      (history ++ (finishThrough moves waited s).calls) := by
  have hkeeps := Running.keeps_run moves s history h.keeps
  obtain ⟨hstopped, hfailure, hstate, hcalls⟩ := finishThrough_some hv
  rw [← hstate, ← hcalls] at hkeeps
  refine ⟨hkeeps.sound.once, fun _ => hkeeps.closings_eq hstopped, fun hf => ?_⟩
  rw [hfailure] at hf
  cases hf

/-- A start that fails has closed nothing, and without a listener it leaves what it has loaded. -/
lemma releases_start {env : Environment} {f : Implementations μ}
    {loaded : Except Settings.LoadError Settings.Config} {host : Connection.Host}
    {error : LaunchError}
    (h : (start env f loaded (Running.ofHost host)).value = .returned (.error error)) :
    Releases (.error error) (start env f loaded (Running.ofHost host)).state
      (start env f loaded (Running.ofHost host)).calls := by
  have hidles := idles_start env f loaded (Running.ofHost host) [] (idles_ofHost host)
  rw [List.nil_append] at hidles
  refine ⟨hidles.modules.once, fun hf handle => ?_, fun hf handle => ?_⟩
  -- Nothing was initialised, or nobody listens: then the balance is all in the registry.
  · rcases start_error env f loaded h with ⟨-, hcalls⟩ | ⟨hfailure, -⟩
    · rw [hcalls]
      rfl
    · exact Bool.noConfusion (hf.symm.trans hfailure)
  · rcases start_error env f loaded h with ⟨hno, -⟩ | ⟨-, manifest, hcalls⟩
    · exact Bool.noConfusion (hno.symm.trans hf)
    · have hnone : closings handle (start env f loaded (Running.ofHost host)).calls = 0 := by
        rw [hcalls]
        exact closings_sync env f manifest rfl handle
      have hbalance := hidles.modules.complete handle
      rw [hnone, Nat.zero_add] at hbalance
      exact ⟨hnone, hbalance⟩

/-- What holds of a run whose server could be started holds of the rest of the run. -/
lemma releases_rest {f : Implementations μ} {config : Settings.Config}
    {signals : Except String (List (Environment × Wake))}
    (hsignals : ∀ wakes, signals = .ok wakes → ∀ x ∈ wakes, x.2.isStop = false)
    {moves : List (Environment × Server.Move)} {s : Running μ} {history : List Call}
    (h : Idles s history) {value : Except LaunchError Unit}
    (hv : (stopThrough f config signals moves s).value = some value) :
    Releases value (stopThrough f config signals moves s).state
      (history ++ (stopThrough f config signals moves s).calls) := by
  cases signals with
  | error detail => exact releases_finishThrough h hv
  | ok wakes =>
    have hawait := idles_await f config (hsignals wakes rfl) s history h
    simp only [stopThrough] at hv ⊢
    rw [Action.calls_bind, ← List.append_assoc]
    rw [Action.bind_apply] at hv ⊢
    cases ho : (await f config wakes s).value with
    | crashed =>
      rw [ho] at hv
      cases hv
    | returned ended =>
      cases ended
      rw [ho] at hv
      have hfinish : (finishThrough moves (.ok ()) (await f config wakes s).state).value =
          some value := hv
      exact releases_finishThrough hawait hfinish

lemma releases_runThrough {env : Environment} {f : Implementations μ}
    {loaded : Except Settings.LoadError Settings.Config}
    {signals : Except String (List (Environment × Wake))}
    (hsignals : ∀ wakes, signals = .ok wakes → ∀ x ∈ wakes, x.2.isStop = false)
    {moves : List (Environment × Server.Move)} {host : Connection.Host}
    {value : Except LaunchError Unit}
    (hv : (runThrough env f loaded signals moves (Running.ofHost host)).value = some value) :
    Releases value (runThrough env f loaded signals moves (Running.ofHost host)).state
      (runThrough env f loaded signals moves (Running.ofHost host)).calls := by
  have hidles := idles_start env f loaded (Running.ofHost host) [] (idles_ofHost host)
  have hfailed := @releases_start μ _ env f loaded host
  rw [List.nil_append] at hidles
  unfold runThrough at hv ⊢
  rw [Action.calls_bind]
  rw [Action.bind_apply] at hv ⊢
  cases hs : (start env f loaded (Running.ofHost host)).value with
  | crashed =>
    rw [hs] at hv
    cases hv
  | returned started =>
    rw [hs] at hv
    cases started with
    | error error =>
      cases hv
      have hreleases := hfailed hs
      rw [← List.append_nil (start env f loaded (Running.ofHost host)).calls] at hreleases
      exact hreleases
    | ok config => exact releases_rest hsignals hidles hv

lemma finish_state (env : Environment) (waited : Except String Unit) (s : Running μ) :
    (finish env waited s).state = (Running.shutdown env s).state := by
  unfold finish
  rw [Action.bind_apply]
  cases (Running.shutdown env s).value with
  | crashed => rfl
  | returned stopped => rcases waited with detail | _ <;> rcases stopped with error | _ <;> rfl

lemma finish_eq_finishThrough {env : Environment} {waited : Except String Unit} {s : Running μ}
    {value : Except LaunchError Unit} (hv : (finish env waited s).value = .returned value)
    (hs : (finish env waited s).state.stopping = .stopped) : ∃ moves,
    finishThrough moves waited s =
      ⟨some value, (finish env waited s).state, (finish env waited s).journal⟩ := by
  obtain ⟨moves, hmoves⟩ := Running.shutdown_eq_run env s
  refine ⟨moves, ?_⟩
  rw [finish_state, hmoves] at hs
  dsimp only at hs
  rw [hs] at hmoves
  unfold finishThrough
  cases ha : (Running.run moves s).state.accepting with
  | _ =>
    rw [ha] at hmoves
    cases waited with
    | error detail =>
      simp only [finish, Action.bind_apply, hmoves] at hv
      cases hv
      simp [finish, hmoves, hs]
    | ok _ =>
      simp only [finish, Action.bind_apply, hmoves] at hv
      cases hv
      simp [finish, hmoves, hs, ha]

/-- A run whose server is stopped to the end stops it with moves in some order. -/
lemma run_eq_runThrough {env : Environment} {f : Implementations μ}
    {loaded : Except Settings.LoadError Settings.Config}
    {signals : Except String (List (Environment × Wake))} {s : Running μ}
    {value : Except LaunchError Unit} (hv : (run env f loaded signals s).value = .returned value)
    (hs : ∀ config, (start env f loaded s).value = .returned (.ok config) →
      (run env f loaded signals s).state.stopping = .stopped) : ∃ moves,
    runThrough env f loaded signals moves s =
      ⟨some value, (run env f loaded signals s).state, (run env f loaded signals s).journal⟩ := by
  unfold run at hv hs ⊢
  unfold runThrough
  simp only [Action.bind_apply] at hv hs ⊢
  generalize start env f loaded s = r at hv hs ⊢
  cases hr : r.value with
  | crashed =>
    rw [hr] at hv
    cases hv
  | returned started =>
    rw [hr] at hv hs
    cases started with
    | error error =>
      cases hv
      exact ⟨[], rfl⟩
    | ok config =>
      have hstopped := hs config rfl
      cases signals with
      | error detail =>
        obtain ⟨moves, hmoves⟩ := finish_eq_finishThrough hv hstopped
        refine ⟨moves, ?_⟩
        simp [stopThrough, hmoves]
      | ok wakes =>
        simp only [stopThrough, Action.bind_apply] at hv hstopped ⊢
        generalize await f config wakes r.state = a at hv hstopped ⊢
        cases ha : a.value with
        | crashed =>
          rw [ha] at hv
          cases hv
        | returned ended =>
          cases ended
          rw [ha] at hv hstopped
          obtain ⟨moves, hmoves⟩ := finish_eq_finishThrough hv hstopped
          refine ⟨moves, ?_⟩
          simp [hmoves]

/-- Every run closes once, by the time it returns, each module that it has initialised with success,
and no other, however its server is stopped; only a run that could not listen leaves open what it
has loaded. -/
theorem releases_before_return (env : Environment) (f : Implementations μ)
    (loaded : Except Settings.LoadError Settings.Config)
    (signals : Except String (List (Environment × Wake)))
    (hsignals : ∀ wakes, signals = .ok wakes → ∀ x ∈ wakes, x.2.isStop = false)
    (host : Connection.Host) (value : Except LaunchError Unit) :
    (∀ moves, let r := runThrough env f loaded signals moves (Running.ofHost host)
      r.value = some value → Releases value r.state r.calls) ∧
    let r := run env f loaded signals (Running.ofHost host)
    r.value = .returned value →
      (∀ config, (start env f loaded (Running.ofHost host)).value = .returned (.ok config) →
        r.state.stopping = .stopped) → Releases value r.state r.calls := by
  refine ⟨fun moves hv => releases_runThrough hsignals hv, fun hv hs => ?_⟩
  obtain ⟨moves, hmoves⟩ := run_eq_runThrough hv hs
  have hreleases := releases_runThrough hsignals (congrArg (·.value) hmoves)
  rw [hmoves] at hreleases
  exact hreleases

end Runs

/-- Files with a manifest that gives the system module some operations. -/
def manifestFiles (operations : String) : Files.Tree :=
  ((Files.Tree.ofHome []).put ["run"] (.directory 0o755)).put ["modules.yaml"]
    (.file ("modules:\n  - name: system\n    operations: [" ++ operations ++ "]\n"))

/-- The manifest changes and is read again, and then the server is asked to end. -/
def revisionWakes : List (Environment × Wake) :=
  [(.calm, .files (manifestFiles "get, reset")), (.calm, .signal 1), (.calm, .signal 15)]

def stopMoves : List (Environment × Server.Move) :=
  (List.replicate 12 [(.calm, .stop), (.calm, .accept)]).flatten

theorem releases_before_return_revision :
    let loaded : Except Settings.LoadError Settings.Config :=
      .ok ⟨.unix "/run/netconfd.sock", "info", .json, 500, some "/modules.yaml"⟩
    let start := Running.ofHost (.ofFiles (manifestFiles "get"))
    let r := run .calm .builtin loaded (.ok revisionWakes) start
    let r' := runThrough .calm .builtin loaded (.ok revisionWakes) stopMoves start
    r.value = .returned (.ok ()) ∧ r'.value = some (.ok ()) ∧
      Releases (.ok ()) r.state r.calls ∧ Releases (.ok ()) r'.state r'.calls ∧
      r.calls = [.initialised ⟨0⟩ "system" none true, .closed ⟨0⟩ "system",
        .initialised ⟨1⟩ "system" none true, .closed ⟨1⟩ "system"] := by
  have h := releases_before_return .calm .builtin
    (.ok ⟨.unix "/run/netconfd.sock", "info", .json, 500, some "/modules.yaml"⟩)
    (.ok revisionWakes) (fun wakes h => by cases h; decide)
    (.ofFiles (manifestFiles "get")) (.ok ())
  exact ⟨by decide +kernel, by decide +kernel, h.2 (by decide +kernel) fun _ _ => by decide +kernel,
    h.1 stopMoves (by decide +kernel), by decide +kernel⟩

/-- A file where the socket should be: the system module was initialised, and is never closed. -/
theorem occupied_socket_leaves_open :
    let loaded : Except Settings.LoadError Settings.Config :=
      .ok ⟨.unix "/run/netconfd.sock", "info", .json, 500, none⟩
    let files := (manifestFiles "get").put ["run", "netconfd.sock"] (.file "")
    let r := run .calm .builtin loaded (.ok []) (Running.ofHost (.ofFiles files))
    r.value = .returned (.error (.listener (.unixNotSocket "/run/netconfd.sock"))) ∧
      openings ⟨0⟩ r.calls = 1 ∧ closings ⟨0⟩ r.calls = 0 :=
  ⟨by decide +kernel, by decide +kernel, by decide +kernel⟩

end ManagementServer.Daemon
