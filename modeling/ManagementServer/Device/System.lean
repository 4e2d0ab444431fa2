import ManagementServer.Device.Module
import ManagementServer.Net.HostName
import ManagementServer.Text.Quoted

/-!
# The system module

The built-in module for a host's identity and clock: host name, time zone, a clock that can be set,
time servers, and a restart or shutdown that can be scheduled. It keeps all this to itself and
changes nothing of the host. Every change of its configuration is published.
-/

namespace ManagementServer.Device

/-- The capability of the system module. -/
def systemCapability : String := "urn:ietf:params:xml:ns:yang:ietf-system"

/-- The operations of the system module. -/
def systemOperations : List String :=
  ["get", "get-config", "set-hostname", "set-timezone", "set-current-datetime", "set-ntp-enabled",
    "add-ntp-server", "remove-ntp-server", "system-restart", "system-shutdown"]

/-- The event that tells a change of the configuration. -/
def configChangeEvent : String := "netconf-config-change"

/-- A time zone: by name, or as minutes east of UTC. -/
inductive Timezone where
  | name (name : String)
  | utcOffset (minutes : Int)
  deriving DecidableEq, Repr, Inhabited

namespace Timezone

/-- The smallest offset. -/
def minOffset : Int := -720

/-- The largest offset. -/
def maxOffset : Int := 840

/-- The time zone in the configuration. -/
def toJson : Timezone → Json
  | .name n => .single "timezone-name" (.string n)
  | .utcOffset minutes => .single "timezone-utc-offset" (.number (.integer minutes))

/-- How a time zone is shown in log records. -/
def label : Timezone → String
  | .name n => "Name(" ++ Text.Quoted.quote n ++ ")"
  | .utcOffset minutes => s!"UtcOffset({minutes})"

/-- Whether a text has the form of a time zone's name. -/
def isName (cs : List Char) : Bool :=
  !cs.isEmpty && cs.head? != some '/' && !Text.contains cs ['.', '.'] &&
    cs.all fun c => Text.isAlphanumeric c || "/_+-".toList.contains c

end Timezone

/-- How a host deals with a time server. -/
inductive Association where
  | server
  | peer
  | pool
  deriving DecidableEq, Repr, Inhabited

namespace Association

/-- The name of an association. -/
def name : Association → String
  | .server => "server"
  | .peer => "peer"
  | .pool => "pool"

/-- Reads an association; a server is meant where nothing is said. -/
def ofJson : Option Json → Except Rpc.Error Association
  | none | some (.string "server") => .ok .server
  | some (.string "peer") => .ok .peer
  | some (.string "pool") => .ok .pool
  | some _ =>
    .error (.invalidValue "association-type"
      "association type must be 'server', 'peer' or 'pool'")

end Association

/-- A time server. -/
structure NtpServer where
  name : String
  address : String
  association : Association
  deriving DecidableEq, Repr, Inhabited

/-- The time server in the configuration. -/
def NtpServer.toJson (s : NtpServer) : Json :=
  .ofMembers
    [("name", .string s.name), ("udp", .single "address" (.string s.address)),
      ("association-type", .string s.association.name)]

/-- What a host can be told to do. -/
inductive PowerAction where
  | restart
  | shutdown
  deriving DecidableEq, Repr, Inhabited

/-- The name of an action. -/
def PowerAction.name : PowerAction → String
  | .restart => "restart"
  | .shutdown => "shutdown"

/-- The system module. Its clock shows the host's time moved by `clockOffset` nanoseconds. It
publishes only between its initialisation and its end. -/
structure SystemModule where
  hostname : String
  timezone : Timezone
  clockOffset : Int
  bootTime : Time.Instant
  ntpEnabled : Bool
  ntpServers : List NtpServer
  pendingAction : Option PowerAction
  isOpen : Bool
  name : String
  deriving DecidableEq, Repr, Inhabited

namespace SystemModule

/-- A module before its initialisation. -/
def ofHostname (hostname : String) : SystemModule :=
  ⟨hostname, .name "UTC", 0, 0, false, [], none, false, "system"⟩

/-- The part of the configuration on time servers. -/
def ntpConfig (m : SystemModule) : Json :=
  .ofMembers
    [("enabled", .bool m.ntpEnabled), ("server", .array (m.ntpServers.map NtpServer.toJson))]

/-- The configuration. -/
def runningConfig (m : SystemModule) : Json :=
  .single "system" (.ofMembers
    [("hostname", .string m.hostname), ("clock", m.timezone.toJson), ("ntp", m.ntpConfig)])

/-- A log record of the module. -/
def record (message : String) (fields : List (String × Json)) : Effect :=
  .log ⟨.info, .systemModule, message, fields⟩

/-- Publishes a changed part of the configuration. -/
def announce (m : SystemModule) (target : String) (value : Json) : List Effect :=
  if m.isOpen then
    [.publish configChangeEvent (.ofMembers
      [("module", .string m.name), ("target", .string target), ("value", value)])]
  else []

/-- The text under a key; a payload that is a text is meant itself. -/
def requiredText (payload : Json) (key : String) : Except Rpc.Error String :=
  match payload with
  | .string s => .ok s
  | .object members =>
    match Json.member? key members with
    | none => .error (.missingParameter key)
    | some (.string s) => .ok s
    | some _ => .error (.invalidValue key s!"'{key}' must be a string")
  | _ => .error (.missingParameter key)

/-- The module after an operation, and what it did. -/
abbrev Change := Except Rpc.Error (SystemModule × List Effect)

/-- Sets the host name. -/
def setHostname (m : SystemModule) (payload : Json) : Change := do
  let hostname ← requiredText payload "hostname"
  match Net.HostName.fault? hostname.toList with
  | some fault =>
    throw (.invalidValue "hostname" s!"invalid host name '{hostname}': {fault.reason}")
  | none =>
    let m := { m with hostname }
    return (m, record "host name changed" [("hostname", .string hostname)] ::
      m.announce "hostname" (.string hostname))

/-- Reads a time zone. -/
def timezoneOf (payload : Json) : Except Rpc.Error Timezone := do
  match payload.get? "timezone-utc-offset" with
  | some offset =>
    match offset.int64? with
    | none => throw (.invalidValue "timezone-utc-offset" "offset must be an integer")
    | some minutes =>
      if minutes < Timezone.minOffset ∨ Timezone.maxOffset < minutes then
        throw (.invalidValue "timezone-utc-offset"
          s!"offset {minutes} is outside {Timezone.minOffset}..={Timezone.maxOffset} minutes")
      else return .utcOffset minutes
  | none =>
    let name ← requiredText payload "timezone-name"
    if Timezone.isName name.toList then return .name name
    else throw (.invalidValue "timezone-name" s!"'{name}' is not a time zone name")

/-- Sets the time zone. -/
def setTimezone (m : SystemModule) (payload : Json) : Change := do
  let timezone ← timezoneOf payload
  let m := { m with timezone }
  return (m, record "time zone changed" [("timezone", .string timezone.label)] ::
    m.announce "clock" timezone.toJson)

/-- Sets the clock, unless time servers set it. -/
def setCurrentDatetime (m : SystemModule) (now : Time.Instant) (payload : Json) : Change := do
  if m.ntpEnabled then
    throw (.failed "the clock is synchronised by NTP; disable NTP before setting it")
  let text ← requiredText payload "current-datetime"
  match Time.Timestamp.parse? text.toList with
  | none =>
    throw (.invalidValue "current-datetime"
      s!"'{text}' is not an RFC 3339 timestamp: <detail>")
  | some target =>
    return ({ m with clockOffset := target.instant - now },
      [record "clock adjusted" [("datetime", .string text)]])

/-- Reads whether time servers are to be used; a payload that is no object is meant itself. -/
def enabledOf (payload : Json) : Except Rpc.Error Bool := do
  let value ←
    match payload with
    | .object members =>
      match Json.member? "enabled" members with
      | some value => pure value
      | none => throw (.missingParameter "enabled")
    | other => pure other
  match value.bool? with
  | some enabled => return enabled
  | none => throw (.invalidValue "enabled" "'enabled' must be true or false")

/-- Says whether time servers are to be used. -/
def setNtpEnabled (m : SystemModule) (payload : Json) : Change := do
  let enabled ← enabledOf payload
  if enabled == m.ntpEnabled then return (m, [])
  else
    let m := { m with ntpEnabled := enabled }
    return (m, record "NTP client toggled" [("enabled", .bool enabled)] ::
      m.announce "ntp" m.ntpConfig)

/-- The address that a payload gives, in whichever of three places. -/
def rawAddress (payload : Json) : Except Rpc.Error String :=
  match payload.get? "udp" >>= Json.get? "address" with
  | some (.string s) => .ok s
  | some _ => .error (.invalidValue "address" "'address' must be a string")
  | none => requiredText payload "address"

/-- The address of a time server: an IP address or a host name. -/
def addressOf (payload : Json) : Except Rpc.Error String := do
  let address := Text.trim (← rawAddress payload)
  if address == "" then throw (.invalidValue "address" "address must not be empty")
  if (Net.IpAddress.parse? address.toList).isNone && !Net.HostName.isValid address.toList then
    throw (.invalidValue "address" s!"'{address}' is not a host")
  return address

/-- The name of a time server: its address where none is given. -/
def nameOf (payload : Json) (address : String) : Except Rpc.Error String :=
  match payload.get? "name" with
  | none => .ok address
  | some (.string name) =>
    if Text.isBlank name then .error blank else .ok name
  | some _ => .error blank
where
  /-- The error for a name that is none. -/
  blank : Rpc.Error := .invalidValue "name" "'name' must be a non-empty string"

/-- The time servers of a pool: one for each of its addresses. -/
def resolvePool (env : Environment) (name address : String) :
    Except Rpc.Error (List NtpServer) :=
  match env.addresses address with
  | .error detail => .error (.failed s!"cannot resolve NTP pool {address}: {detail}")
  | .ok [] => .error (.failed s!"NTP pool {address} resolved to no addresses")
  | .ok found => .ok ((found.map Net.IpAddress.text).eraseDups.map (⟨name, ·, .server⟩))

/-- Whether a time server of an address is configured. -/
def hasNtpServer (m : SystemModule) (address : String) : Bool :=
  m.ntpServers.any (·.address == address)

/-- Adds a time server, or those of a pool. -/
def addNtpServer (m : SystemModule) (env : Environment) (payload : Json) : Change := do
  let address ← addressOf payload
  let association ← Association.ofJson (payload.get? "association-type")
  let name ← nameOf payload address
  let servers ←
    if association = .pool then resolvePool env name address
    else pure [⟨name, address, association⟩]
  match servers.find? fun s => m.hasNtpServer s.address with
  | some s => throw (.failed s!"NTP server {s.address} is already configured")
  | none =>
    let m := { m with ntpServers := m.ntpServers ++ servers }
    return (m, record "NTP servers added"
        [("address", .string address), ("count", .ofNat servers.length)] ::
      m.announce "ntp" m.ntpConfig)

/-- Removes a time server. -/
def removeNtpServer (m : SystemModule) (payload : Json) : Change := do
  let address ← addressOf payload
  let kept := m.ntpServers.filter (·.address != address)
  if kept.length == m.ntpServers.length then
    throw (.invalidValue "address" s!"NTP server {address} is not configured")
  else
    let m := { m with ntpServers := kept }
    return (m, record "NTP server removed" [("address", .string address)] ::
      m.announce "ntp" m.ntpConfig)

/-- Schedules a power action, unless one is scheduled. -/
def schedule (m : SystemModule) (action : PowerAction) : Change :=
  match m.pendingAction with
  | some pending => .error (.failed s!"a {pending.name} is already scheduled")
  | none =>
    .ok ({ m with pendingAction := some action },
      [record "power action scheduled" [("action", .string action.name)]])

/-- Executes an operation that changes the module. -/
def change (m : SystemModule) (env : Environment) (operation : String) (payload : Json) : Change :=
  match operation with
  | "set-hostname" => m.setHostname payload
  | "set-timezone" => m.setTimezone payload
  | "set-current-datetime" => m.setCurrentDatetime env.now payload
  | "set-ntp-enabled" => m.setNtpEnabled payload
  | "add-ntp-server" => m.addNtpServer env payload
  | "remove-ntp-server" => m.removeNtpServer payload
  | "system-restart" => m.schedule .restart
  | "system-shutdown" => m.schedule .shutdown
  | other =>
    .error (.notSupported s!"operation '{other}' is not implemented by the system module")

/-- Executes an operation. -/
def execute (m : SystemModule) (env : Environment) (operation : String) (payload : Json) :
    Response SystemModule Rpc.Reply :=
  if operation == "get" || operation == "get-config" then
    ⟨.returned (.data m.runningConfig), m, []⟩
  else
    match m.change env operation payload with
    | .ok (changed, effects) => ⟨.returned .ok, changed, effects⟩
    | .error e => ⟨.returned (.error e), m, []⟩

/-- The state at an instant of the module's clock. -/
def stateAt (m : SystemModule) (env : Environment) (now : Time.Instant) : Except String Json :=
  match (Time.Timestamp.utc now).format?, (Time.Timestamp.utc m.bootTime).format? with
  | some current, some boot =>
    .ok (.single "system-state" (.ofMembers (
      [("platform", .ofMembers
          [("os-name", .string env.osName), ("machine", .string env.machine)]),
        ("clock", .ofMembers
          [("current-datetime", .string current), ("boot-datetime", .string boot)])] ++
      (m.pendingAction.map fun a => ("pending-action", Json.string a.name)).toList)))
  | _, _ => .error "clock formatting failed: <detail>"

/-- The instant that the module's clock shows; `none` outside the dates that can be held. -/
def clock? (m : SystemModule) (now : Time.Instant) : Option Time.Instant :=
  Time.Instant.plus? now m.clockOffset

instance : SteadyModule SystemModule where
  init env identity m :=
    let m := { m with name := identity.name, isOpen := true, bootTime := env.now }
    ⟨.returned (.ok m.runningConfig), m, []⟩
  execute env _ operation payload m := m.execute env operation payload
  state env m :=
    match m.clock? env.now with
    | some now => ⟨.returned (m.stateAt env now), m, []⟩
    | none => ⟨.crashed, m, []⟩
  close m :=
    ⟨.returned (), { m with isOpen := false },
      [record "system module closed" [("module", .string m.name)]]⟩
  close_returns _ := rfl

end SystemModule

end ManagementServer.Device
