import ManagementServer.Proofs.NtpServers

/-!
# What holds of the system module at any time

`SystemModule.IsProper` says what its configuration looks like in every state that calls lead to,
the initialisation and the end of the module among them. An operation that fails changes nothing.
-/

namespace ManagementServer.Device

/-- A time zone is a name of the right form, or it is at most twelve hours west and fourteen east
of UTC. -/
def Timezone.IsProper : Timezone → Prop
  | .name n => isName n.toList = true
  | .utcOffset minutes => -720 ≤ minutes ∧ minutes ≤ 840

namespace SystemModule

variable {m m' : SystemModule} {env : Environment} {operation : String} {payload : Json}
  {effects : List Effect}

/-- The host name follows its grammar, the time zone is one, and the time servers are proper and
have distinct addresses. -/
structure IsProper (m : SystemModule) : Prop where
  hostname : Net.HostName.IsWellFormed m.hostname.toList
  timezone : m.timezone.IsProper
  servers : ∀ s ∈ m.ntpServers, s.IsProper
  distinct : (m.ntpServers.map (·.address)).Nodup

/-! ## One operation -/

lemma timezoneOf_isProper {zone : Timezone} (h : timezoneOf payload = .ok zone) :
    zone.IsProper := by
  unfold timezoneOf at h
  split at h
  · split at h
    · cases h
    · split at h
      · cases h
      · rename_i hrange
        cases h
        exact ⟨not_lt.mp fun hlow => hrange (.inl hlow),
          not_lt.mp fun hhigh => hrange (.inr hhigh)⟩
  · obtain ⟨name, -, h⟩ := bind_eq_ok.mp h
    split at h
    · rename_i hname
      cases h
      exact hname
    · cases h

lemma isProper_ofHostname {hostname : String}
    (h : Net.HostName.IsWellFormed hostname.toList) : (ofHostname hostname).IsProper :=
  ⟨h, (rfl : Timezone.isName "UTC".toList = true), fun _ hs => absurd hs List.not_mem_nil,
    List.nodup_nil⟩

/-- What an operation changes beside additions of time servers leaves the module proper. -/
lemma IsProper.changes (h : m.IsProper) (made : Changes m env operation payload m' effects)
    (hother : operation ≠ "add-ntp-server") : m'.IsProper := by
  cases made with
  | hostname name called given valid =>
    exact { h with hostname := (Net.HostName.fault?_eq_none_iff _).mp valid }
  | timezone zone called given => exact { h with timezone := timezoneOf_isProper given }
  | clock | stays | toggles | power => exact { h with }
  | adds address servers called => exact absurd called hother
  | removes address called given =>
    have hkept := List.filter_sublist (p := (·.address != address)) (l := m.ntpServers)
    exact
      { h with
        servers := fun s hs => h.servers s (hkept.subset hs)
        distinct := h.distinct.sublist (hkept.map (·.address)) }

/-- Servers at new and distinct addresses leave the module proper. -/
lemma IsProper.append (h : m.IsProper) {servers : List NtpServer}
    (hservers : ∀ s ∈ servers, s.IsProper) (hdistinct : (servers.map (·.address)).Nodup)
    (hfresh : ∀ s ∈ servers, m.hasNtpServer s.address = false) :
    IsProper { m with ntpServers := m.ntpServers ++ servers } := by
  refine { h with servers := fun s hs => ?_, distinct := ?_ }
  · rcases List.mem_append.mp hs with hs | hs
    · exact h.servers s hs
    · exact hservers s hs
  · rw [List.map_append]
    refine List.nodup_append.mpr ⟨h.distinct, hdistinct, ?_⟩
    intro a ha b hb
    obtain ⟨old, hold, rfl⟩ := List.mem_map.mp ha
    obtain ⟨new, hnew, rfl⟩ := List.mem_map.mp hb
    exact hasNtpServer_eq_false.mp (hfresh new hnew) old hold

/-- An operation either succeeds or leaves the module as it is and does nothing. -/
lemma execute_of_not_ok (h : (m.execute env operation payload).outcome ≠ .returned .ok) :
    (m.execute env operation payload).module = m ∧
      (m.execute env operation payload).effects = [] := by
  have hexecutes := m.executes_execute env operation payload
  generalize m.execute env operation payload = response at h hexecutes
  cases hexecutes with
  | reads | fails => exact ⟨rfl, rfl⟩
  | changes => exact absurd rfl h

lemma IsProper.execute (h : m.IsProper) (hyields : env.YieldsAddresses) (operation : String)
    (payload : Json) : (m.execute env operation payload).module.IsProper := by
  by_cases hok : (m.execute env operation payload).outcome = .returned .ok
  · by_cases hadd : operation = "add-ntp-server"
    · subst hadd
      obtain ⟨asked, servers, hasked, hservers, hfresh, hmodule⟩ := execute_addNtpServer hok
      rw [hmodule]
      exact h.append (expand_isProper hyields hasked hservers) (expand_nodup hservers) hfresh
    · have hexecutes := m.executes_execute env operation payload
      generalize m.execute env operation payload = response at hexecutes
      cases hexecutes with
      | reads | fails => exact h
      | changes m' effects made => exact h.changes made hadd
  · rw [(execute_of_not_ok hok).1]
    exact h

/-- The clock is moved only while no time server sets it. -/
lemma Changes.ntpEnabled_eq_false (made : Changes m env operation payload m' effects)
    (h : m'.clockOffset ≠ m.clockOffset) : m.ntpEnabled = false := by
  cases made with
  | clock text target called free => exact free
  | hostname | timezone | stays | toggles | adds | removes | power => exact absurd rfl h

/-- A power action that is scheduled stays. -/
lemma Changes.pendingAction_eq (made : Changes m env operation payload m' effects)
    {action : PowerAction} (h : m.pendingAction = some action) :
    m'.pendingAction = some action := by
  cases made with
  | power other called free => cases h.symm.trans free
  | hostname | timezone | clock | stays | toggles | adds | removes => exact h

/-- A pool is added as a whole or not at all. -/
lemma ntpServers_add {asked : NtpServer} {servers : List NtpServer}
    (hasked : described payload = .ok asked) (hservers : expand env asked = .ok servers) :
    (m.execute env "add-ntp-server" payload).module.ntpServers = m.ntpServers ∨
      (m.execute env "add-ntp-server" payload).module.ntpServers = m.ntpServers ++ servers := by
  by_cases hok : (m.execute env "add-ntp-server" payload).outcome = .returned .ok
  · obtain ⟨asked', servers', hasked', hservers', -, hmodule⟩ := execute_addNtpServer hok
    obtain rfl := Except.ok.inj (hasked'.symm.trans hasked)
    obtain rfl := Except.ok.inj (hservers'.symm.trans hservers)
    exact .inr (by rw [hmodule])
  · exact .inl (by rw [(execute_of_not_ok hok).1])

/-! ## Calls one after the other -/

/-- A call on the module, its initialisation and its end among them. -/
inductive Call where
  | init (env : Environment) (identity : Identity)
  | query (query : Query)
  | close

/-- Host names stand for addresses while the call is made. -/
def Call.YieldsAddresses : Call → Prop
  | .query (.execute env _ _ _) => env.YieldsAddresses
  | _ => True

/-- The module behind a call. -/
def handle (m : SystemModule) : Call → SystemModule
  | .init env identity => (DeviceModule.init env identity m).module
  | .query q => (m.serve q).1
  | .close => (DeviceModule.close m).module

/-- The module behind calls that come one after the other. -/
def afterCalls (m : SystemModule) (calls : List Call) : SystemModule :=
  calls.foldl handle m

lemma afterCalls_append (m : SystemModule) (calls more : List Call) :
    m.afterCalls (calls ++ more) = (m.afterCalls calls).afterCalls more :=
  List.foldl_append

lemma IsProper.handle (h : m.IsProper) {call : Call} (hyields : call.YieldsAddresses) :
    (m.handle call).IsProper := by
  cases call with
  | init env identity => exact { h with }
  | close => exact { h with }
  | query q =>
    cases q with
    | execute env session operation payload => exact h.execute hyields operation payload
    | state env =>
      rw [SystemModule.handle, m.serve_state env]
      exact h

lemma IsProper.afterCalls (h : m.IsProper) {calls : List Call}
    (hyields : ∀ call ∈ calls, call.YieldsAddresses) : (m.afterCalls calls).IsProper := by
  induction calls generalizing m with
  | nil => exact h
  | cons call rest ih =>
    exact ih (h.handle (hyields call List.mem_cons_self))
      fun other hother => hyields other (List.mem_cons_of_mem _ hother)

lemma ntpEnabled_of_handle {call : Call} (h : (m.handle call).clockOffset ≠ m.clockOffset) :
    m.ntpEnabled = false := by
  cases call with
  | init env identity => exact absurd rfl h
  | close => exact absurd rfl h
  | query q =>
    rcases m.serve_cases q with hserve | ⟨_, _, _, _, -, -, made⟩
    · rw [handle, hserve] at h
      exact absurd rfl h
    · exact made.ntpEnabled_eq_false h

lemma pendingAction_handle (call : Call) {action : PowerAction}
    (h : m.pendingAction = some action) : (m.handle call).pendingAction = some action := by
  cases call with
  | init env identity => exact h
  | close => exact h
  | query q =>
    rcases m.serve_cases q with hserve | ⟨_, _, _, _, -, -, made⟩
    · rw [handle, hserve]
      exact h
    · exact made.pendingAction_eq h

lemma pendingAction_afterCalls (calls : List Call) {action : PowerAction}
    (h : m.pendingAction = some action) :
    (m.afterCalls calls).pendingAction = some action := by
  induction calls generalizing m with
  | nil => exact h
  | cons call rest ih => exact ih (pendingAction_handle call h)

/-- Whatever is called on a module that began with a well-formed host name, the module is proper. An
operation that fails leaves it as it is and publishes nothing, and of a pool all servers are added
or none. Its clock was only ever moved while no time server set it, and a power action that was
scheduled once is still the one that is scheduled. -/
theorem proper_afterCalls {hostname : String}
    (hvalid : Net.HostName.IsWellFormed hostname.toList) {calls : List Call}
    (hyields : ∀ call ∈ calls, call.YieldsAddresses) :
    let m := (ofHostname hostname).afterCalls calls
    m.IsProper ∧
      (∀ env operation payload error,
        (m.execute env operation payload).outcome = .returned (.error error) →
          (m.execute env operation payload).module = m ∧
            (m.execute env operation payload).effects = []) ∧
      (∀ env payload asked servers,
        described payload = .ok asked → expand env asked = .ok servers →
          (m.execute env "add-ntp-server" payload).module.ntpServers = m.ntpServers ∨
            (m.execute env "add-ntp-server" payload).module.ntpServers =
              m.ntpServers ++ servers) ∧
      ∀ before rest, calls = before ++ rest →
        let earlier := (ofHostname hostname).afterCalls before
        (∀ call ∈ rest.head?, (earlier.handle call).clockOffset ≠ earlier.clockOffset →
          earlier.ntpEnabled = false) ∧
        ∀ action, earlier.pendingAction = some action → m.pendingAction = some action := by
  intro m
  refine ⟨(isProper_ofHostname hvalid).afterCalls hyields, ?_, ?_, ?_⟩
  · intro env operation payload error hfailed
    exact execute_of_not_ok (by rw [hfailed]; exact nofun)
  · intro env payload asked servers hasked hservers
    exact ntpServers_add hasked hservers
  · intro before rest hcalls earlier
    refine ⟨fun call _ hmoved => ntpEnabled_of_handle hmoved, fun action hscheduled => ?_⟩
    have hm : m = earlier.afterCalls rest := by
      rw [← afterCalls_append, ← hcalls]
    rw [hm]
    exact pendingAction_afterCalls rest hscheduled

/-- A module adds a pool's two servers, refuses the pool another time and a host name that is none,
and keeps the first of two power actions. -/
theorem proper_afterCalls_pool :
    let pool := Call.query (.execute .pooled ⟨"1", "admin", .empty⟩ "add-ntp-server"
      (poolOf "pool.example"))
    let calls := [.init .calm ⟨⟨0⟩, "system", none⟩, pool, pool,
      .query (.calm "set-hostname" (.string "-edge")), .query (.calm "system-restart" .null),
      .query (.calm "system-shutdown" .null), .close]
    let m := (ofHostname "localhost").afterCalls calls
    Net.HostName.IsWellFormed "localhost".toList ∧ (∀ call ∈ calls, call.YieldsAddresses) ∧
      m.IsProper ∧ m.hostname = "localhost" ∧ m.ntpServers.length = 2 ∧
      m.pendingAction = some .restart := by
  intro pool calls m
  have hvalid : Net.HostName.IsWellFormed "localhost".toList :=
    (Net.HostName.fault?_eq_none_iff _).mp rfl
  have hyields : ∀ call ∈ calls, call.YieldsAddresses := by
    intro call hcall
    simp only [calls, List.mem_cons, List.not_mem_nil, or_false] at hcall
    rcases hcall with rfl | rfl | rfl | rfl | rfl | rfl | rfl
    · trivial
    · exact Environment.pooled_yieldsAddresses
    · exact Environment.pooled_yieldsAddresses
    · exact Environment.calm_yieldsAddresses
    · exact Environment.calm_yieldsAddresses
    · exact Environment.calm_yieldsAddresses
    · trivial
  exact ⟨hvalid, hyields, (proper_afterCalls hvalid hyields).1, rfl, rfl, rfl⟩

end SystemModule

end ManagementServer.Device
