import ManagementServer.Device.System
import ManagementServer.Proofs.JsonValues
import ManagementServer.Proofs.ModuleRegistry

/-!
# The system module through its operations

`SystemModule.Changes` lists what an operation can change, with what it publishes and under which
conditions. A `Query` is a call on the module between its initialisation and its end.
-/

namespace ManagementServer

namespace Device

namespace SystemModule

variable {m m' : SystemModule} {env : Environment} {operation : String} {payload : Json}
  {effects : List Effect}

/-! ## What an operation can change -/

/-- The module behind an operation that succeeded, and what it did. -/
inductive Changes (m : SystemModule) (env : Environment) (operation : String) (payload : Json) :
    SystemModule → List Effect → Prop
  | hostname (name : String) (called : operation = "set-hostname")
      (given : requiredText payload "hostname" = .ok name)
      (valid : Net.HostName.fault? name.toList = none) :
      Changes m env operation payload { m with hostname := name }
        (record "host name changed" [("hostname", .string name)] ::
          m.announce "hostname" (.string name))
  | timezone (zone : Timezone) (called : operation = "set-timezone")
      (given : timezoneOf payload = .ok zone) :
      Changes m env operation payload { m with timezone := zone }
        (record "time zone changed" [("timezone", .string zone.label)] ::
          m.announce "clock" zone.toJson)
  | clock (text : String) (target : Time.Timestamp) (called : operation = "set-current-datetime")
      (free : m.ntpEnabled = false) (given : requiredText payload "current-datetime" = .ok text)
      (read : Time.Timestamp.parse? text.toList = some target) :
      Changes m env operation payload { m with clockOffset := target.instant - env.now }
        [record "clock adjusted" [("datetime", .string text)]]
  | stays (called : operation = "set-ntp-enabled")
      (given : enabledOf payload = .ok m.ntpEnabled) : Changes m env operation payload m []
  | toggles (enabled : Bool) (called : operation = "set-ntp-enabled")
      (given : enabledOf payload = .ok enabled) (differs : enabled ≠ m.ntpEnabled) :
      Changes m env operation payload { m with ntpEnabled := enabled }
        (record "NTP client toggled" [("enabled", .bool enabled)] ::
          m.announce "ntp" { m with ntpEnabled := enabled }.ntpConfig)
  | adds (address : String) (servers : List NtpServer) (called : operation = "add-ntp-server")
      (given : addressOf payload = .ok address)
      (fresh : ∀ s ∈ servers, m.hasNtpServer s.address = false) :
      Changes m env operation payload { m with ntpServers := m.ntpServers ++ servers }
        (record "NTP servers added"
            [("address", .string address), ("count", .ofNat servers.length)] ::
          m.announce "ntp" { m with ntpServers := m.ntpServers ++ servers }.ntpConfig)
  | removes (address : String) (called : operation = "remove-ntp-server")
      (given : addressOf payload = .ok address) :
      Changes m env operation payload
        { m with ntpServers := m.ntpServers.filter (·.address != address) }
        (record "NTP server removed" [("address", .string address)] ::
          m.announce "ntp"
            { m with ntpServers := m.ntpServers.filter (·.address != address) }.ntpConfig)
  | power (action : PowerAction) (called : operation = s!"system-{action.name}")
      (free : m.pendingAction = none) :
      Changes m env operation payload { m with pendingAction := some action }
        [record "power action scheduled" [("action", .string action.name)]]

lemma bind_eq_ok {ε α β : Type} {x : Except ε α} {f : α → Except ε β} {b : β} :
    x >>= f = .ok b ↔ ∃ a, x = .ok a ∧ f a = .ok b := by
  cases x <;> simp [bind, Except.bind]

lemma changes_setHostname (ho : operation = "set-hostname")
    (h : m.setHostname payload = .ok (m', effects)) :
    Changes m env operation payload m' effects := by
  obtain ⟨name, given, h⟩ := bind_eq_ok.mp h
  split at h
  · cases h
  · rename_i valid
    cases h
    exact .hostname name ho given valid

lemma changes_setTimezone (ho : operation = "set-timezone")
    (h : m.setTimezone payload = .ok (m', effects)) :
    Changes m env operation payload m' effects := by
  obtain ⟨zone, given, h⟩ := bind_eq_ok.mp h
  cases h
  exact .timezone zone ho given

lemma changes_setCurrentDatetime (ho : operation = "set-current-datetime")
    (h : m.setCurrentDatetime env.now payload = .ok (m', effects)) :
    Changes m env operation payload m' effects := by
  rw [setCurrentDatetime] at h
  split at h
  · cases h
  · rename_i free
    obtain ⟨text, given, h⟩ := bind_eq_ok.mp h
    split at h
    · cases h
    · rename_i target read
      cases h
      exact .clock text target ho ((Bool.not_eq_true _).mp free) given read

lemma changes_setNtpEnabled (ho : operation = "set-ntp-enabled")
    (h : m.setNtpEnabled payload = .ok (m', effects)) :
    Changes m env operation payload m' effects := by
  obtain ⟨enabled, given, h⟩ := bind_eq_ok.mp h
  split at h
  · rename_i same
    cases h
    exact .stays ho (eq_of_beq same ▸ given)
  · rename_i differs
    cases h
    exact .toggles enabled ho given fun he => differs (beq_iff_eq.mpr he)

lemma changes_addNtpServer (ho : operation = "add-ntp-server")
    (h : m.addNtpServer env payload = .ok (m', effects)) :
    Changes m env operation payload m' effects := by
  obtain ⟨address, given, h⟩ := bind_eq_ok.mp h
  obtain ⟨association, -, h⟩ := bind_eq_ok.mp h
  obtain ⟨name, -, h⟩ := bind_eq_ok.mp h
  dsimp only at h
  split at h <;>
  · obtain ⟨servers, -, h⟩ := bind_eq_ok.mp h
    split at h
    · cases h
    · rename_i fresh
      cases h
      exact .adds address servers ho given fun s hs => by
        simpa using List.find?_eq_none.mp fresh s hs

lemma changes_removeNtpServer (ho : operation = "remove-ntp-server")
    (h : m.removeNtpServer payload = .ok (m', effects)) :
    Changes m env operation payload m' effects := by
  obtain ⟨address, given, h⟩ := bind_eq_ok.mp h
  dsimp only at h
  split at h
  · cases h
  · cases h
    exact .removes address ho given

lemma changes_schedule {action : PowerAction} (ho : operation = s!"system-{action.name}")
    (h : m.schedule action = .ok (m', effects)) : Changes m env operation payload m' effects := by
  rw [schedule] at h
  split at h
  · cases h
  · rename_i free
    cases h
    exact .power action ho free

lemma changes_change (h : m.change env operation payload = .ok (m', effects)) :
    Changes m env operation payload m' effects := by
  unfold change at h
  split at h
  · exact changes_setHostname rfl h
  · exact changes_setTimezone rfl h
  · exact changes_setCurrentDatetime rfl h
  · exact changes_setNtpEnabled rfl h
  · exact changes_addNtpServer rfl h
  · exact changes_removeNtpServer rfl h
  · exact changes_schedule (by decide) h
  · exact changes_schedule (by decide) h
  · cases h

/-- An operation answers with the configuration, or it fails, and both leave the module as it is,
or it succeeds. -/
inductive Executes (m : SystemModule) (env : Environment) (operation : String) (payload : Json) :
    Response SystemModule Rpc.Reply → Prop
  | reads : Executes m env operation payload ⟨.returned (.data m.runningConfig), m, []⟩
  | fails (e : Rpc.Error) : Executes m env operation payload ⟨.returned (.error e), m, []⟩
  | changes (m' : SystemModule) (effects : List Effect)
      (made : Changes m env operation payload m' effects) :
      Executes m env operation payload ⟨.returned .ok, m', effects⟩

lemma executes_execute (m : SystemModule) (env : Environment) (operation : String)
    (payload : Json) : Executes m env operation payload (m.execute env operation payload) := by
  rw [execute]
  split
  · exact .reads
  · split
    · rename_i m' effects h
      exact .changes m' effects (changes_change h)
    · exact .fails _

lemma execute_getConfig (m : SystemModule) (env : Environment) (payload : Json) :
    m.execute env "get-config" payload = ⟨.returned (.data m.runningConfig), m, []⟩ := rfl

/-! ## Calls one after the other -/

/-- A call on the module between its initialisation and its end. -/
inductive Query where
  | execute (env : Environment) (session : SessionContext) (operation : String) (payload : Json)
  | state (env : Environment)

/-- The module behind a call, and what it did. -/
def serve (m : SystemModule) : Query → SystemModule × List Effect
  | .execute env session operation payload =>
    let response := DeviceModule.execute env session operation payload m
    (response.module, response.effects)
  | .state env =>
    let response := DeviceModule.state env m
    (response.module, response.effects)

def after (m : SystemModule) (queries : List Query) : SystemModule :=
  queries.foldl (fun m q => (m.serve q).1) m

lemma serve_state (m : SystemModule) (env : Environment) : m.serve (.state env) = (m, []) := by
  simp only [serve, DeviceModule.state]
  split <;> rfl

/-- A call changes nothing, or it is an operation that succeeds. -/
lemma serve_cases (m : SystemModule) (q : Query) : m.serve q = (m, []) ∨
    ∃ env session operation payload, q = .execute env session operation payload ∧
      (m.execute env operation payload).outcome = .returned .ok ∧
      Changes m env operation payload (m.serve q).1 (m.serve q).2 := by
  cases q with
  | state env => exact .inl (m.serve_state env)
  | execute env session operation payload =>
    have hexecutes := m.executes_execute env operation payload
    have hserve : m.serve (.execute env session operation payload) =
        ((m.execute env operation payload).module,
          (m.execute env operation payload).effects) := rfl
    rw [hserve]
    generalize hr : m.execute env operation payload = response at hexecutes
    cases hexecutes with
    | reads | fails => exact .inl rfl
    | changes m' effects made =>
      exact .inr ⟨env, session, operation, payload, rfl, by rw [hr], made⟩

/-- A module that was initialised in calm surroundings. -/
def opened : SystemModule :=
  (DeviceModule.init .calm ⟨⟨0⟩, "system", none⟩ (ofHostname "localhost")).module

/-- A call for an operator's session in calm surroundings. -/
def Query.calm (operation : String) (payload : Json) : Query :=
  .execute .calm ⟨"1", "admin", .empty⟩ operation payload

end SystemModule

end Device

end ManagementServer
