import ManagementServer.Json.Member
import ManagementServer.Proofs.AddressText
import ManagementServer.Proofs.Descriptors
import ManagementServer.Proofs.HostNames
import ManagementServer.Proofs.SystemModule

/-!
# Adding and removing time servers

The payload of an addition describes a time server or a pool. A pool is kept as one time server for
each of its addresses, under the address's canonical text, and a removal goes by the text alone. So
a removal undoes the addition with the same payload, but for a pool whose own text is not the
canonical text of an address.
-/

namespace ManagementServer

/-- What a host name is said to stand for are addresses. -/
def Environment.YieldsAddresses (env : Environment) : Prop :=
  ∀ host found, env.resolve host = .ok found → ∀ x ∈ found, x.IsProper

lemma Environment.calm_yieldsAddresses : Environment.calm.YieldsAddresses := by
  intro host found h x hx
  cases h
  cases hx

/-- Surroundings in which one host name stands for two addresses, and no other for any. -/
def Environment.pooled : Environment :=
  { Environment.calm with
    resolve := fun host =>
      .ok (if host = "pool.example" then
        [.v4 ⟨192, 0, 2, 1⟩, .v6 ⟨[0x2001, 0xDB8, 0, 0, 0, 0, 0, 1]⟩]
      else []) }

lemma Environment.pooled_yieldsAddresses : Environment.pooled.YieldsAddresses := by
  intro host found h x hx
  cases h
  split at hx
  · rcases List.mem_cons.mp hx with rfl | hx
    · exact ⟨by decide, by decide, by decide, by decide⟩
    · obtain rfl := List.mem_singleton.mp hx
      exact ⟨rfl, by decide⟩
  · cases hx

lemma Environment.YieldsAddresses.isProper {env : Environment} (h : env.YieldsAddresses)
    {host : String} {found : List Net.IpAddress} (hfound : env.addresses host = .ok found) :
    ∀ x ∈ found, x.IsProper := by
  unfold addresses at hfound
  split at hfound
  · rename_i x hx
    cases hfound
    simpa using Net.IpAddress.isProper_of_parse? hx
  · exact h host found hfound

lemma Text.isBlank_trim {s : String} (h : trim s ≠ "") : isBlank (trim s) = false := by
  by_contra hblank
  rw [Bool.not_eq_false, isBlank, List.all_eq_true] at hblank
  have hnil : (trim s).toList.dropWhile isBlankChar = [] :=
    List.dropWhile_eq_nil_iff.mpr hblank
  refine h ?_
  rw [← trim_trim, trim, trimChars, hnil]
  rfl

namespace Device

/-- A time server is reached at an IP address or a host name, is no pool, and has a name. -/
structure NtpServer.IsProper (s : NtpServer) : Prop where
  host : (Net.IpAddress.parse? s.address.toList).isSome = true ∨
    Net.HostName.IsWellFormed s.address.toList
  association : s.association ≠ .pool
  name : Text.isBlank s.name = false

namespace SystemModule

variable {m m' : SystemModule} {env : Environment} {payload : Json} {effects : List Effect}

/-! ## What a payload describes -/

/-- The time server or pool that a payload describes. -/
def described (payload : Json) : Except Rpc.Error NtpServer := do
  let address ← addressOf payload
  let association ← Association.ofJson (payload.get? "association-type")
  let name ← nameOf payload address
  return ⟨name, address, association⟩

/-- The time servers that stand for what was described. -/
def expand (env : Environment) (asked : NtpServer) : Except Rpc.Error (List NtpServer) :=
  if asked.association = .pool then resolvePool env asked.name asked.address else pure [asked]

lemma addressOf_eq_ok {address : String} (h : addressOf payload = .ok address) :
    Text.isBlank address = false ∧ ((Net.IpAddress.parse? address.toList).isSome = true ∨
      Net.HostName.IsWellFormed address.toList) := by
  obtain ⟨raw, -, h⟩ := bind_eq_ok.mp h
  dsimp only at h
  split at h
  · cases h
  · rename_i hempty
    split at h
    · cases h
    · rename_i hhost
      cases h
      refine ⟨Text.isBlank_trim (by simpa using hempty), ?_⟩
      simp only [Bool.and_eq_true, not_and, Option.isNone_iff_eq_none, Bool.not_eq_true'] at hhost
      rw [← Net.HostName.fault?_eq_none_iff, ← Option.isNone_iff_eq_none,
        ← Option.ne_none_iff_isSome]
      by_cases hip : Net.IpAddress.parse? (Text.trim raw).toList = none
      · exact .inr ((Bool.not_eq_false _).mp (hhost hip))
      · exact .inl hip

lemma nameOf_eq_ok {name address : String} (haddress : Text.isBlank address = false)
    (h : nameOf payload address = .ok name) : Text.isBlank name = false := by
  unfold nameOf at h
  split at h
  · cases h
    exact haddress
  · split at h
    · cases h
    · rename_i hname
      cases h
      exact (Bool.not_eq_true _).mp hname
  · cases h

lemma described_eq_ok {asked : NtpServer} (h : described payload = .ok asked) :
    addressOf payload = .ok asked.address ∧ Text.isBlank asked.name = false := by
  obtain ⟨address, haddress, h⟩ := bind_eq_ok.mp h
  obtain ⟨association, -, h⟩ := bind_eq_ok.mp h
  obtain ⟨name, hname, h⟩ := bind_eq_ok.mp h
  cases h
  exact ⟨haddress, nameOf_eq_ok (addressOf_eq_ok haddress).1 hname⟩

lemma resolvePool_eq_ok {name address : String} {servers : List NtpServer}
    (h : resolvePool env name address = .ok servers) :
    ∃ found, env.addresses address = .ok found ∧
      servers = (found.map Net.IpAddress.text).eraseDups.map (⟨name, ·, .server⟩) := by
  unfold resolvePool at h
  split at h
  · cases h
  · cases h
  · rename_i found _ hfound
    cases h
    exact ⟨found, hfound, rfl⟩

/-- The servers of a pool are those of its addresses, under their canonical texts. -/
lemma mem_resolvePool (hyields : env.YieldsAddresses) {name address : String}
    {servers : List NtpServer} (h : resolvePool env name address = .ok servers) {s : NtpServer}
    (hs : s ∈ servers) : ∃ x : Net.IpAddress, x.IsProper ∧ s = ⟨name, x.text, .server⟩ := by
  obtain ⟨found, hfound, rfl⟩ := resolvePool_eq_ok h
  obtain ⟨text, htext, rfl⟩ := List.mem_map.mp hs
  obtain ⟨x, hx, rfl⟩ := List.mem_map.mp (List.mem_eraseDups.mp htext)
  exact ⟨x, hyields.isProper hfound x hx, rfl⟩

/-- A payload that describes a pool. -/
def poolOf (address : String) : Json :=
  .ofMembers [("address", .string address), ("association-type", .string "pool")]

/-! ## Additions -/

/-- An operation that changes the module. -/
lemma execute_of_changed (hr : (operation == "get" || operation == "get-config") = false)
    (h : m.change env operation payload = .ok (m', effects)) :
    m.execute env operation payload = ⟨.returned .ok, m', effects⟩ := by
  simp [execute, hr, h]

/-- An operation that is refused. -/
lemma execute_of_refused {e : Rpc.Error}
    (hr : (operation == "get" || operation == "get-config") = false)
    (h : m.change env operation payload = .error e) :
    m.execute env operation payload = ⟨.returned (.error e), m, []⟩ := by
  simp [execute, hr, h]

/-- An addition that succeeds adds all that was described, and none of it was there. -/
lemma addNtpServer_eq_ok (h : m.addNtpServer env payload = .ok (m', effects)) :
    ∃ asked servers, described payload = .ok asked ∧ expand env asked = .ok servers ∧
      (∀ s ∈ servers, m.hasNtpServer s.address = false) ∧
      m' = { m with ntpServers := m.ntpServers ++ servers } := by
  obtain ⟨address, haddress, h⟩ := bind_eq_ok.mp h
  obtain ⟨association, hread, h⟩ := bind_eq_ok.mp h
  obtain ⟨name, hname, h⟩ := bind_eq_ok.mp h
  have hdescribed : described payload = .ok ⟨name, address, association⟩ := by
    simp only [described, haddress, hread, hname, bind, Except.bind, pure, Except.pure]
  dsimp only at h
  split at h <;> rename_i hassociation <;>
  · obtain ⟨servers, hservers, h⟩ := bind_eq_ok.mp h
    split at h
    · cases h
    · rename_i hfresh
      cases h
      refine ⟨_, servers, hdescribed, ?_, fun s hs => ?_, rfl⟩
      · simpa only [expand, hassociation, if_true, if_false] using hservers
      · simpa using List.find?_eq_none.mp hfresh s hs

lemma execute_addNtpServer
    (h : (m.execute env "add-ntp-server" payload).outcome = .returned .ok) :
    ∃ asked servers, described payload = .ok asked ∧ expand env asked = .ok servers ∧
      (∀ s ∈ servers, m.hasNtpServer s.address = false) ∧
      (m.execute env "add-ntp-server" payload).module =
        { m with ntpServers := m.ntpServers ++ servers } := by
  have hchange : m.change env "add-ntp-server" payload = m.addNtpServer env payload := rfl
  cases hadd : m.addNtpServer env payload with
  | error e =>
    rw [execute_of_refused rfl (hchange.trans hadd)] at h
    cases h
  | ok made =>
    obtain ⟨changed, effects⟩ := made
    rw [execute_of_changed rfl (hchange.trans hadd)]
    exact addNtpServer_eq_ok hadd

lemma expand_isProper (hyields : env.YieldsAddresses) {asked : NtpServer}
    (hasked : described payload = .ok asked) {servers : List NtpServer}
    (h : expand env asked = .ok servers) : ∀ s ∈ servers, s.IsProper := by
  intro s hs
  obtain ⟨haddress, hname⟩ := described_eq_ok hasked
  unfold expand at h
  split at h
  · obtain ⟨x, hx, rfl⟩ := mem_resolvePool hyields h hs
    exact ⟨.inl (by simp [Net.IpAddress.parse?_text hx]), by simp, hname⟩
  · rename_i hassociation
    cases h
    obtain rfl := List.mem_singleton.mp hs
    exact ⟨(addressOf_eq_ok haddress).2, hassociation, hname⟩

lemma nodup_eraseDups {α : Type} [BEq α] [LawfulBEq α] (as : List α) : as.eraseDups.Nodup := by
  induction h : as.length using Nat.strong_induction_on generalizing as with
  | _ n ih =>
    cases as with
    | nil => simp
    | cons a as =>
      have hlength := List.length_filter_le (fun b => !b == a) as
      rw [List.eraseDups_cons, List.nodup_cons]
      refine ⟨by simp, ih _ ?_ _ rfl⟩
      rw [List.length_cons] at h
      omega

/-- No two of the servers have one address. -/
lemma expand_nodup {asked : NtpServer} {servers : List NtpServer}
    (h : expand env asked = .ok servers) : (servers.map (·.address)).Nodup := by
  unfold expand at h
  split at h
  · obtain ⟨found, -, rfl⟩ := resolvePool_eq_ok h
    rw [List.map_map]
    simpa [Function.comp_def] using nodup_eraseDups (found.map Net.IpAddress.text)
  · cases h
    simp

/-! ## Removals -/

lemma hasNtpServer_eq_false {address : String} :
    m.hasNtpServer address = false ↔ ∀ s ∈ m.ntpServers, s.address ≠ address := by
  simp [hasNtpServer, List.any_eq_false]

lemma execute_removeNtpServer {address : String} (h : addressOf payload = .ok address) :
    (m.execute env "remove-ntp-server" payload).module =
        { m with ntpServers := m.ntpServers.filter (·.address != address) } ∧
      (m.execute env "remove-ntp-server" payload).outcome =
        if m.hasNtpServer address then .returned .ok
        else .returned (.error
          (.invalidValue "address" s!"NTP server {address} is not configured")) := by
  have hchange : m.change env "remove-ntp-server" payload = m.removeNtpServer payload := rfl
  have hkept : (m.ntpServers.filter (·.address != address)).length = m.ntpServers.length ↔
      m.hasNtpServer address = false := by
    rw [List.length_filter_eq_length_iff, hasNtpServer_eq_false]
    simp
  cases hhas : m.hasNtpServer address with
  | true =>
    obtain ⟨effects, hremove⟩ : ∃ effects, m.removeNtpServer payload =
        .ok ({ m with ntpServers := m.ntpServers.filter (·.address != address) }, effects) := by
      simp only [removeNtpServer, h, bind, Except.bind, beq_iff_eq, hkept, hhas]
      exact ⟨_, rfl⟩
    rw [execute_of_changed rfl (hchange.trans hremove)]
    exact ⟨rfl, rfl⟩
  | false =>
    have hremove : m.removeNtpServer payload =
        .error (.invalidValue "address" s!"NTP server {address} is not configured") := by
      simp only [removeNtpServer, h, bind, Except.bind, beq_iff_eq, hkept, hhas]
      rfl
    have hall : m.ntpServers.filter (·.address != address) = m.ntpServers :=
      List.filter_eq_self.mpr fun s hs => by simpa using hasNtpServer_eq_false.mp hhas s hs
    rw [execute_of_refused rfl (hchange.trans hremove), hall]
    exact ⟨rfl, rfl⟩

/-! ## A removal behind an addition -/

/-- What was described is kept under the text that it was described with: it is no pool, or its text
is the canonical text of an address. -/
def KeptAsWritten (asked : NtpServer) : Prop :=
  asked.association = .pool →
    ∃ x, Net.IpAddress.parse? asked.address.toList = some x ∧ x.text = asked.address

lemma expand_of_keptAsWritten {asked : NtpServer} (hkept : KeptAsWritten asked)
    {servers : List NtpServer} (h : expand env asked = .ok servers) :
    ∃ s, servers = [s] ∧ s.address = asked.address := by
  unfold expand at h
  split at h
  · rename_i hpool
    obtain ⟨x, hx, htext⟩ := hkept hpool
    obtain ⟨found, hfound, rfl⟩ := resolvePool_eq_ok h
    rw [Environment.addresses, hx] at hfound
    cases hfound
    exact ⟨_, rfl, htext⟩
  · cases h
    exact ⟨asked, rfl, rfl⟩

lemma expand_of_not_keptAsWritten (hyields : env.YieldsAddresses) {asked : NtpServer}
    (hkept : ¬ KeptAsWritten asked) {servers : List NtpServer}
    (h : expand env asked = .ok servers) : ∀ s ∈ servers, s.address ≠ asked.address := by
  intro s hs haddress
  obtain ⟨hpool, hno⟩ := Classical.not_imp.mp hkept
  rw [expand, if_pos hpool] at h
  obtain ⟨x, hx, rfl⟩ := mem_resolvePool hyields h hs
  exact hno ⟨x, haddress ▸ Net.IpAddress.parse?_text hx, haddress⟩

/-- A removal right behind an addition, with the same payload. What is kept as it was written is
taken away again, and the module is as it was before. Of any other pool the servers stay: the
removal takes away the server that was configured under the pool's own text before, or is refused if
there was none. -/
theorem remove_after_add (m : SystemModule) {env : Environment} (hyields : env.YieldsAddresses)
    (env' : Environment) {payload : Json}
    (haccepted : (m.execute env "add-ntp-server" payload).outcome = .returned .ok) :
    let added := (m.execute env "add-ntp-server" payload).module
    let removal := added.execute env' "remove-ntp-server" payload
    ∃ asked servers, described payload = .ok asked ∧ expand env asked = .ok servers ∧
      added = { m with ntpServers := m.ntpServers ++ servers } ∧
      (KeptAsWritten asked → removal.outcome = .returned .ok ∧ removal.module = m) ∧
      (¬ KeptAsWritten asked →
        removal.module.ntpServers =
            m.ntpServers.filter (·.address != asked.address) ++ servers ∧
          removal.outcome =
            if m.hasNtpServer asked.address then .returned .ok
            else .returned (.error (.invalidValue "address"
              s!"NTP server {asked.address} is not configured"))) := by
  intro added removal
  obtain ⟨asked, servers, hdescribed, hexpand, hfresh, hadded⟩ := execute_addNtpServer haccepted
  obtain ⟨hmodule, houtcome⟩ :
      removal.module = { added with
        ntpServers := added.ntpServers.filter (·.address != asked.address) } ∧
        removal.outcome = if added.hasNtpServer asked.address then .returned .ok
          else .returned (.error (.invalidValue "address"
            s!"NTP server {asked.address} is not configured")) :=
    execute_removeNtpServer (described_eq_ok hdescribed).1
  change added = _ at hadded
  have hlist : removal.module.ntpServers = m.ntpServers.filter (·.address != asked.address) ++
      servers.filter (·.address != asked.address) := by
    rw [hmodule, hadded, ← List.filter_append]
  have hhas : added.hasNtpServer asked.address =
      (m.hasNtpServer asked.address || servers.any (·.address == asked.address)) := by
    rw [hadded]
    exact List.any_append
  refine ⟨asked, servers, hdescribed, hexpand, hadded, fun hkept => ?_, fun hkept => ?_⟩
  · obtain ⟨s, rfl, haddress⟩ := expand_of_keptAsWritten hkept hexpand
    have hbefore : m.hasNtpServer asked.address = false :=
      haddress ▸ hfresh s (List.mem_singleton_self s)
    have hrest : m.ntpServers.filter (·.address != asked.address) = m.ntpServers :=
      List.filter_eq_self.mpr fun t ht => by simpa using hasNtpServer_eq_false.mp hbefore t ht
    constructor
    · rw [houtcome, hhas]
      simp [haddress]
    · rw [hmodule, hadded]
      simp [hrest, haddress]
  · have hothers := expand_of_not_keptAsWritten hyields hkept hexpand
    constructor
    · have hservers : servers.filter (·.address != asked.address) = servers :=
        List.filter_eq_self.mpr fun s hs => by simpa using hothers s hs
      rw [hlist, hservers]
    · have hnone : servers.any (·.address == asked.address) = false := by
        simpa [List.any_eq_false] using hothers
      rw [houtcome, hhas, hnone, Bool.or_false]

/-- Two pools are added and removed with the same payload. The one whose text is an address as it is
written is gone again. The other one's text is a host name, and its two servers stay. -/
theorem remove_after_add_pools :
    let m := opened.after [.calm "add-ntp-server" (.string "edge1")]
    let literal := m.execute .pooled "add-ntp-server" (poolOf " 2001:db8::1 ")
    let named := m.execute .pooled "add-ntp-server" (poolOf "pool.example")
    Environment.pooled.YieldsAddresses ∧ literal.outcome = .returned .ok ∧
      named.outcome = .returned .ok ∧
      (literal.module.execute .calm "remove-ntp-server" (poolOf " 2001:db8::1 ")).module = m ∧
      (named.module.execute .calm "remove-ntp-server" (poolOf "pool.example")).module.ntpServers =
        m.ntpServers ++ [⟨"pool.example", "192.0.2.1", .server⟩,
          ⟨"pool.example", "2001:db8::1", .server⟩] := by
  intro m literal named
  refine ⟨Environment.pooled_yieldsAddresses, rfl, rfl, ?_, ?_⟩
  · have haccepted : literal.outcome = .returned .ok := rfl
    obtain ⟨asked, servers, hdescribed, -, -, hkept, -⟩ :=
      remove_after_add m Environment.pooled_yieldsAddresses .calm haccepted
    obtain rfl : (⟨"2001:db8::1", "2001:db8::1", .pool⟩ : NtpServer) = asked :=
      Except.ok.inj hdescribed
    exact (hkept fun _ => ⟨.v6 ⟨[0x2001, 0xDB8, 0, 0, 0, 0, 0, 1]⟩, rfl, rfl⟩).2
  · have haccepted : named.outcome = .returned .ok := rfl
    obtain ⟨asked, servers, hdescribed, hexpand, -, -, hstays⟩ :=
      remove_after_add m Environment.pooled_yieldsAddresses .calm haccepted
    obtain rfl : (⟨"pool.example", "pool.example", .pool⟩ : NtpServer) = asked :=
      Except.ok.inj hdescribed
    obtain rfl : ([⟨"pool.example", "192.0.2.1", .server⟩,
        ⟨"pool.example", "2001:db8::1", .server⟩] : List NtpServer) = servers :=
      Except.ok.inj hexpand
    refine (hstays fun hkept => ?_).1
    obtain ⟨x, hx, -⟩ := hkept rfl
    exact Option.some_ne_none x (hx.symm.trans rfl)

/-- An address in capital letters is kept in small ones when it is added as a pool, and the removal
with the same payload finds no such server. -/
theorem pool_in_capitals_stays :
    let added := opened.execute .calm "add-ntp-server" (poolOf "2001:DB8::1")
    let removal := added.module.execute .calm "remove-ntp-server" (poolOf "2001:DB8::1")
    opened.ntpServers = [] ∧ added.outcome = .returned .ok ∧
      removal.outcome = .returned (.error (.invalidValue "address"
        "NTP server 2001:DB8::1 is not configured")) ∧
      removal.module.ntpServers = [⟨"2001:DB8::1", "2001:db8::1", .server⟩] := by
  intro added removal
  exact ⟨rfl, rfl, rfl, rfl⟩

end SystemModule

end Device

end ManagementServer
