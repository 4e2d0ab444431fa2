import ManagementServer.Json.Member
import ManagementServer.Proofs.SystemModule

/-!
# The system module's configuration out of its notifications

Whoever knows the configuration that the system module began with and reads its notifications knows
its configuration at any later time: each says which part has changed, and what it is now.
-/

namespace ManagementServer

/-- An object with a member set; other values stay as they are. -/
def Json.setMember (j : Json) (key : String) (value : Json) : Json :=
  match j with
  | .object members => .object (insertMember key value members)
  | other => other

namespace Device

/-- What a notification of a changed configuration says. -/
def Effect.notice? : Effect → Option Json
  | .publish event body => if event = configChangeEvent then some body else none
  | .log _ => none

namespace SystemModule

variable {m m' : SystemModule} {env : Environment} {operation : String} {payload : Json}
  {effects : List Effect}

/-- The parts of the configuration that a notification can be about. -/
def parts : List String := ["hostname", "clock", "ntp"]

/-- A configuration with the part set that a notification is about. -/
def amend (config notice : Json) : Json :=
  match notice.get? "target", notice.get? "value" with
  | some (.string target), some value =>
    if target ∈ parts then
      config.setMember "system" ((config.field "system").setMember target value)
    else config
  | _, _ => config

/-- What a module says in its notifications during calls that come one after the other. -/
def notices (m : SystemModule) : List Query → List Json
  | [] => []
  | q :: rest => (m.serve q).2.filterMap Effect.notice? ++ (m.serve q).1.notices rest

/-! ## One notification -/

/-- A notification of a module that is open. -/
def notice (m : SystemModule) (target : String) (value : Json) : Json :=
  .ofMembers [("module", .string m.name), ("target", .string target), ("value", value)]

lemma notice_announce (h : m.isOpen) (target : String) (value : Json) :
    (m.announce target value).filterMap Effect.notice? = [m.notice target value] := by
  simp [announce, h, Effect.notice?, notice]

lemma amend_notice {target : String} (h : target ∈ parts) (config value : Json) :
    amend config (m.notice target value) =
      config.setMember "system" ((config.field "system").setMember target value) := by
  have htarget : (m.notice target value).get? "target" = some (.string target) := by
    simp [notice, Json.ofMembers, Json.get?, Json.member?_insertMember]
  have hvalue : (m.notice target value).get? "value" = some value := by
    simp [notice, Json.ofMembers, Json.get?, Json.member?_insertMember]
  rw [amend, htarget, hvalue]
  exact if_pos h

/-- A configuration by its parts, in the order of their keys. -/
lemma runningConfig_eq (m : SystemModule) :
    m.runningConfig = .single "system" (.object [("clock", m.timezone.toJson),
      ("hostname", .string m.hostname), ("ntp", m.ntpConfig)]) := by
  simp (disch := decide) only [runningConfig, Json.ofMembers, List.foldl, Json.insertMember_nil,
    Json.insertMember_of_lt, Json.insertMember_of_gt]

lemma amend_runningConfig {target : String} (h : target ∈ parts) (value : Json) :
    amend m.runningConfig (m.notice target value) =
      .single "system" (.object (Json.insertMember target value [("clock", m.timezone.toJson),
        ("hostname", .string m.hostname), ("ntp", m.ntpConfig)])) := by
  rw [amend_notice h, runningConfig_eq]
  rw [Json.single, Json.setMember, Json.insertMember_self]
  rfl

lemma amend_hostname (m : SystemModule) (name : String) :
    amend m.runningConfig (m.notice "hostname" (.string name)) =
      { m with hostname := name }.runningConfig := by
  rw [amend_runningConfig (by simp [parts]), runningConfig_eq]
  simp (disch := decide) only [Json.insertMember_self, Json.insertMember_of_gt, ntpConfig]

lemma amend_clock (m : SystemModule) (zone : Timezone) :
    amend m.runningConfig (m.notice "clock" zone.toJson) =
      { m with timezone := zone }.runningConfig := by
  rw [amend_runningConfig (by simp [parts]), runningConfig_eq]
  simp only [Json.insertMember_self, ntpConfig]

lemma amend_ntp (m : SystemModule) (enabled : Bool) (servers : List NtpServer) :
    amend m.runningConfig
        (m.notice "ntp" { m with ntpEnabled := enabled, ntpServers := servers }.ntpConfig) =
      { m with ntpEnabled := enabled, ntpServers := servers }.runningConfig := by
  rw [amend_runningConfig (by simp [parts]), runningConfig_eq]
  simp (disch := decide) only [Json.insertMember_self, Json.insertMember_of_gt]

/-! ## Calls one after the other -/

/-- What an operation changes of the configuration, it tells. -/
lemma Changes.amends (h : Changes m env operation payload m' effects) (ho : m.isOpen) :
    m'.isOpen ∧
      (effects.filterMap Effect.notice?).foldl amend m.runningConfig = m'.runningConfig := by
  cases h with
  | hostname name =>
    refine ⟨ho, ?_⟩
    rw [List.filterMap_cons_none rfl, notice_announce ho]
    exact m.amend_hostname name
  | timezone zone =>
    refine ⟨ho, ?_⟩
    rw [List.filterMap_cons_none rfl, notice_announce ho]
    exact m.amend_clock zone
  | toggles enabled =>
    refine ⟨ho, ?_⟩
    rw [List.filterMap_cons_none rfl, notice_announce ho]
    exact m.amend_ntp enabled m.ntpServers
  | adds | removes =>
    refine ⟨ho, ?_⟩
    rw [List.filterMap_cons_none rfl, notice_announce ho]
    exact m.amend_ntp m.ntpEnabled _
  | clock | stays | power => exact ⟨ho, rfl⟩

lemma serve_amends (ho : m.isOpen) (q : Query) :
    (m.serve q).1.isOpen ∧ ((m.serve q).2.filterMap Effect.notice?).foldl amend m.runningConfig =
      (m.serve q).1.runningConfig := by
  rcases m.serve_cases q with hs | ⟨env, session, operation, payload, -, -, changes⟩
  · rw [hs]
    exact ⟨ho, rfl⟩
  · exact changes.amends ho

lemma after_amends (ho : m.isOpen) (queries : List Query) :
    (m.notices queries).foldl amend m.runningConfig = (m.after queries).runningConfig := by
  induction queries generalizing m with
  | nil => rfl
  | cons q rest ih =>
    obtain ⟨hopen, hconfig⟩ := serve_amends ho q
    rw [notices, List.foldl_append, hconfig]
    exact ih hopen

lemma after_isOpen (ho : m.isOpen) (queries : List Query) : (m.after queries).isOpen := by
  induction queries generalizing m with
  | nil => exact ho
  | cons q rest ih => exact ih (serve_amends ho q).1

/-- The configuration of a module is the one that its initialisation returned, with all amended
that its notifications have told since; what changes it is told, and what fails is not. -/
theorem configuration_rebuilt (m₀ : SystemModule) (env₀ : Environment) (identity : Identity)
    (queries : List Query) :
    let opened := DeviceModule.init env₀ identity m₀
    let m := opened.module.after queries
    ∃ initial, opened.outcome = .returned (.ok initial) ∧
      (∀ env session payload, (DeviceModule.execute env session "get-config" payload m).outcome =
        .returned (.data ((opened.module.notices queries).foldl amend initial))) ∧
      (∀ q, m.notices [q] = [] → (m.serve q).1.runningConfig = m.runningConfig) ∧
      ∀ env session operation payload e,
        (DeviceModule.execute env session operation payload m).outcome = .returned (.error e) →
          DeviceModule.execute env session operation payload m = ⟨.returned (.error e), m, []⟩ := by
  intro opened m
  have hopened : opened.module.isOpen := rfl
  refine ⟨opened.module.runningConfig, rfl, ?_, ?_, ?_⟩
  · intro env session payload
    rw [after_amends hopened queries]
    exact congrArg Response.outcome (m.execute_getConfig env payload)
  · intro q hquiet
    have hconfig := (serve_amends (after_isOpen hopened queries) q).2
    rw [notices, notices, List.append_nil] at hquiet
    rw [hquiet] at hconfig
    exact hconfig.symm
  · intro env session operation payload e hfails
    have hexecutes := m.executes_execute env operation payload
    change (m.execute env operation payload).outcome = _ at hfails
    change m.execute env operation payload = _
    generalize m.execute env operation payload = response at hexecutes hfails
    cases hexecutes with
    | reads => cases hfails
    | fails => cases hfails; rfl
    | changes => cases hfails

/-- Two of these calls fail, one reads, one leaves the configuration as it is, and three change
it. -/
def course : List Query :=
  [.calm "set-hostname" (.string "edge1"), .calm "set-hostname" (.string "-"),
    .calm "set-ntp-enabled" (.bool false), .calm "set-ntp-enabled" (.bool true),
    .calm "set-current-datetime" (.string "2001-02-03T04:05:06Z"), .state .calm,
    .calm "add-ntp-server" (.single "address" (.string "192.0.2.1"))]

theorem configuration_rebuilt_course :
    let m := opened.after course
    m.hostname = "edge1" ∧ m.ntpEnabled = true ∧ m.ntpServers.map (·.address) = ["192.0.2.1"] ∧
      (opened.notices course).length = 3 ∧
      ∃ initial, (DeviceModule.init .calm ⟨⟨0⟩, "system", none⟩ (ofHostname "localhost")).outcome =
          .returned (.ok initial) ∧
        (DeviceModule.execute .calm ⟨"1", "admin", .empty⟩ "get-config" .null m).outcome =
          .returned (.data ((opened.notices course).foldl amend initial)) ∧
        (m.serve (.calm "set-ntp-enabled" (.bool true))).1.runningConfig = m.runningConfig := by
  obtain ⟨initial, hinit, hconfig, hquiet, -⟩ :=
    configuration_rebuilt (ofHostname "localhost") .calm ⟨⟨0⟩, "system", none⟩ course
  exact ⟨by decide +kernel, by decide +kernel, by decide +kernel, by decide +kernel, initial, hinit,
    hconfig .calm ⟨"1", "admin", .empty⟩ .null, hquiet _ rfl⟩

end SystemModule

end Device

end ManagementServer
