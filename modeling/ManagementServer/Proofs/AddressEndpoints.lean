import ManagementServer.Client
import ManagementServer.Proofs.CanonicalEndpoints
import ManagementServer.Proofs.ModuleRegistry

/-!
# Endpoints that name an address

The host of an endpoint designates an address if whoever listens on the endpoint listens there, and
whoever connects to it connects there (`Designates`). The text of an IPv4 address does; the host
that is read from an IPv6 address in brackets keeps the brackets, and designates nothing
(`Endpoint.literal_designates`).
-/

namespace ManagementServer

/-- No text that begins with a bracket is the name of a host. -/
def Environment.RefusesBrackets (env : Environment) : Prop :=
  ∀ host : String, host.toList.head? = some '[' →
    ∀ address others, env.resolve host ≠ .ok (address :: others)

namespace Connection

open Settings (Endpoint)

/-! ## Both ends of a connection -/

/-- What comes of listening on a port of an address. For port zero one is picked. -/
inductive Host.Listens (h : Host) (host : String) (port : Nat) (address : Net.IpAddress) :
    Except ListenerError (Listener × Host) → Prop
  | granted (picked : Nat) (hpicked : port ≠ 0 → picked = port)
    (hlocal : isLocal address = true) (hfree : (address, picked) ∉ h.ports) :
    Listens h host port address (.ok (⟨.tcp host picked, some (address, picked)⟩,
      { h with ports := (address, picked) :: h.ports }))
  | refused (picked : Nat) (hpicked : port ≠ 0 → picked = port)
    (hbusy : isLocal address = false ∨ (address, picked) ∈ h.ports) :
    Listens h host port address (.error (.bindTcp address port))

/-- Those who listen on an endpoint and those who connect to it turn to one address, and meet. -/
structure Designates (env : Environment) (host : String) (port : Nat) (address : Net.IpAddress) :
    Prop where
  listens : ∀ h : Host, h.Listens host port address (h.bind env (.tcp host port))
  connects : ∀ h : Host, Client.connect env (.tcp host port) h =
    if (address, port) ∈ h.ports then .ok .fresh
    else .error (.connect (Endpoint.text (.tcp host port)))
  meets : ∀ (h h' : Host) (l : Listener), h.bind env (.tcp host port) = .ok (l, h') →
    Client.connect env l.endpoint h' = .ok .fresh

/-- Nobody listens on an endpoint or connects to it, for want of an address. -/
structure IsUnresolved (env : Environment) (host : String) (port : Nat) : Prop where
  listens : ∀ h : Host, ∃ error, h.bind env (.tcp host port) = .error error ∧
    ((∃ detail, error = .resolve host port detail) ∨ error = .resolveEmpty host port)
  connects : ∀ h : Host, Client.connect env (.tcp host port) h =
    .error (.resolve (Endpoint.text (.tcp host port)))

variable {env : Environment} {host : String} {address : Net.IpAddress}
  {others : List Net.IpAddress}

lemma listens_of_addresses (h : env.addresses host = .ok (address :: others)) (port : Nat)
    (lender : Host) : lender.Listens host port address (lender.bind env (.tcp host port)) := by
  have hpicked : port ≠ 0 → (if port == 0 then lender.freePort address else port) = port :=
    fun hport => if_neg (fun hzero => hport (beq_iff_eq.mp hzero))
  rw [Host.bind, Host.bindTcp, h]
  dsimp only
  generalize (if port == 0 then lender.freePort address else port) = picked at hpicked ⊢
  split
  · rename_i hbusy
    exact .refused picked hpicked (by simpa using hbusy)
  · rename_i hfree
    rw [Bool.or_eq_true, not_or] at hfree
    exact .granted picked hpicked (by simpa using hfree.1) (by simpa using hfree.2)

lemma connect_of_addresses (h : env.addresses host = .ok (address :: others)) (port : Nat)
    (lender : Host) : Client.connect env (.tcp host port) lender =
      if (address, port) ∈ lender.ports then .ok .fresh
      else .error (.connect (Endpoint.text (.tcp host port))) := by
  simp only [Client.connect, h, List.contains_iff_mem]

/-- A host designates the first of its addresses. -/
lemma designates_of_addresses (h : env.addresses host = .ok (address :: others)) (port : Nat) :
    Designates env host port address where
  listens := listens_of_addresses h port
  connects := connect_of_addresses h port
  meets lender lender' l hbound := by
    have hlistens := listens_of_addresses h port lender
    rw [hbound] at hlistens
    cases hlistens with
    | granted picked => rw [connect_of_addresses h, if_pos List.mem_cons_self]

lemma isUnresolved_of_addresses
    (h : ∀ address others, env.addresses host ≠ .ok (address :: others)) (port : Nat) :
    IsUnresolved env host port where
  listens lender := by
    rw [Host.bind, Host.bindTcp]
    split
    · exact ⟨_, rfl, .inl ⟨_, rfl⟩⟩
    · exact ⟨_, rfl, .inr rfl⟩
    · rename_i address others haddresses
      exact absurd haddresses (h address others)
  connects lender := by
    rw [Client.connect]
    split
    · rfl
    · rfl
    · rename_i address others haddresses
      exact absurd haddresses (h address others)

end Connection

/-! ## Literals -/

namespace Net

lemma isPlainChar_of_ipv4 {c : Char} (h : Ipv4.isChar c = true) :
    Url.Host.isPlainChar c = true :=
  Url.Host.of_ascii (q := fun c => Url.Host.isPlainChar c = true)
    (Url.Host.toNat_lt_of_isChar (Ipv6.isChar_of_ipv4 h)) h (by decide +kernel)

lemma parse?_bracket (cs : List Char) : IpAddress.parse? ('[' :: cs) = none := by
  have hread : Ipv4.read? ('[' :: cs) = none := Ipv4.read?_of_head (by decide)
  have hhex : (Text.Digits.hexValue? '[').isSome = false := by decide
  have hgroup : Ipv6.group? ('[' :: cs) = none := by simp [Ipv6.group?, hhex]
  have hgroups : Ipv6.readGroups true 8 ('[' :: cs) = ([], false, '[' :: cs) := by
    simp [Ipv6.readGroups, Ipv6.separator?, hread, hgroup]
  simp [IpAddress.parse?, Ipv4.parse?, hread, Ipv6.parse?, hgroups]

end Net

namespace Environment

variable {env : Environment}

lemma addresses_ipv4 {literal : String} {x : Net.Ipv4}
    (h : Net.Ipv4.parse? literal.toList = some x) : env.addresses literal = .ok [.v4 x] := by
  simp [addresses, Net.IpAddress.parse?, h]

lemma addresses_ipv6 {x : Net.Ipv6} (h : x.IsProper) :
    env.addresses (String.ofList x.chars) = .ok [.v6 x] := by
  have hdot : '.' ∉ x.chars := by
    unfold Net.Ipv6.chars
    split <;> simp [Net.Ipv6.dot_not_mem_groupChars]
  simp [addresses, Net.IpAddress.parse?, Net.Ipv4.parse?, Net.Ipv4.read?_of_not_mem hdot,
    Net.Ipv6.parse?_chars h]

lemma addresses_bracketed (h : env.RefusesBrackets) {host : String} {cs : List Char}
    (hhost : host.toList = '[' :: cs) (address : Net.IpAddress) (others : List Net.IpAddress) :
    env.addresses host ≠ .ok (address :: others) := by
  rw [addresses, hhost, Net.parse?_bracket]
  exact h host (by rw [hhost]; rfl) address others

end Environment

namespace Settings.Endpoint

open Connection (Designates IsUnresolved Host)

/-- The host that is read from an address in brackets. -/
def bracketedHost (x : Net.Ipv6) : String :=
  "[" ++ String.ofList x.chars ++ "]"

lemma toList_bracketedHost (x : Net.Ipv6) :
    (bracketedHost x).toList = '[' :: (x.chars ++ [']']) := by
  simp [bracketedHost]

lemma parse_text_ipv4 {literal : String} {x : Net.Ipv4}
    (h : Net.Ipv4.parse? literal.toList = some x) {port : Nat} (hport : port < 65536) :
    parse (text (.tcp literal port)) = .ok (.tcp literal port) := by
  have hnormal : Url.Host.IsNormal literal.toList :=
    .bare fun c hc => Net.isPlainChar_of_ipv4 (Net.Ipv4.isChar_of_parse? h c hc)
  refine parse_text_of_isCanonical ⟨hnormal, ?_, hport⟩
  rintro rfl
  cases h

lemma parse_text_ipv6 {literal : String} {x : Net.Ipv6}
    (h : Net.Ipv6.parse? literal.toList = some x) {port : Nat} (hport : port < 65536) :
    parse (text (.tcp ("[" ++ literal ++ "]") port)) = .ok (.tcp (bracketedHost x) port) := by
  have hliteral : ("[" ++ literal ++ "]").toList = '[' :: (literal.toList ++ [']']) := by simp
  have hdelimited := Url.Host.isDelimited_bracketed (Net.Ipv6.isChar_of_parse? h)
  have hread : Url.Host.opaque? ('[' :: (literal.toList ++ [']'])) =
      some ('[' :: (x.chars ++ [']'])) := Url.Host.bracketed?_of_parse? h
  rw [← hliteral] at hdelimited hread
  rw [parse_text_tcp hdelimited hread (List.cons_ne_nil _ _) hport, ← toList_bracketedHost,
    String.ofList_toList]

/-- An endpoint with an IPv4 address is read with that address as its host, which designates it. An
endpoint with an IPv6 address is read with brackets around the canonical text, and such a host has
no address at either end, though the text between the brackets designates it. -/
theorem literal_designates {env : Environment} (hbrackets : env.RefusesBrackets) {port : Nat}
    (hport : port < 65536) :
    (∀ (literal : String) (x : Net.Ipv4), Net.Ipv4.parse? literal.toList = some x →
      parse (text (.tcp literal port)) = .ok (.tcp literal port) ∧
        Designates env literal port (.v4 x)) ∧
      ∀ (literal : String) (x : Net.Ipv6), Net.Ipv6.parse? literal.toList = some x →
        parse (text (.tcp ("[" ++ literal ++ "]") port)) = .ok (.tcp (bracketedHost x) port) ∧
          IsUnresolved env (bracketedHost x) port ∧
          Designates env (String.ofList x.chars) port (.v6 x) := by
  constructor
  · intro literal x h
    exact ⟨parse_text_ipv4 h hport,
      Connection.designates_of_addresses (Environment.addresses_ipv4 h) port⟩
  · intro literal x h
    refine ⟨parse_text_ipv6 h hport, ?_, ?_⟩
    · exact Connection.isUnresolved_of_addresses
        (Environment.addresses_bracketed hbrackets (toList_bracketedHost x)) port
    · exact Connection.designates_of_addresses
        (Environment.addresses_ipv6 (Net.Ipv6.isProper_of_parse? h)) port

/-- A host whose resolver knows no name. -/
def nameless : Environment :=
  { Environment.calm with resolve := fun _ => .error "name not known" }

/-- The address of the host itself. -/
def loopback : Net.Ipv6 := ⟨[0, 0, 0, 0, 0, 0, 0, 1]⟩

lemma refusesBrackets_nameless : nameless.RefusesBrackets :=
  fun _ _ _ _ h => by cases h

theorem literal_designates_loopback :
    nameless.RefusesBrackets ∧
      text (.tcp "127.0.0.1" 8300) = "tcp://127.0.0.1:8300" ∧
      parse (text (.tcp "127.0.0.1" 8300)) = .ok (.tcp "127.0.0.1" 8300) ∧
      Designates nameless "127.0.0.1" 8300 (.v4 ⟨127, 0, 0, 1⟩) ∧
      parse (text (.tcp "[0::0.0.0.1]" 8300)) = .ok (.tcp "[::1]" 8300) ∧
      IsUnresolved nameless "[::1]" 8300 ∧ Designates nameless "::1" 8300 (.v6 loopback) := by
  obtain ⟨hv4, hv6⟩ :=
    literal_designates refusesBrackets_nameless (show 8300 < 65536 by decide)
  obtain ⟨hparse4, hdesignates4⟩ := hv4 "127.0.0.1" ⟨127, 0, 0, 1⟩ (by decide +kernel)
  obtain ⟨hparse6, hunresolved, hdesignates6⟩ := hv6 "0::0.0.0.1" loopback (by decide +kernel)
  have hliteral : "[" ++ "0::0.0.0.1" ++ "]" = "[0::0.0.0.1]" := by decide +kernel
  have hhost : bracketedHost loopback = "[::1]" := by decide +kernel
  have hinside : String.ofList loopback.chars = "::1" := by decide +kernel
  rw [hliteral, hhost] at hparse6
  rw [hhost] at hunresolved
  rw [hinside] at hdesignates6
  exact ⟨refusesBrackets_nameless, by decide +kernel, hparse4, hdesignates4, hparse6, hunresolved,
    hdesignates6⟩

/-- Nobody listens on an address in brackets, and nobody connects to it, though it is the host's own
and somebody listens there. -/
theorem bracketed_literal_unresolved :
    let idle : Host := .ofFiles (Files.Tree.ofHome [])
    let served : Host := { idle with ports := [(.v6 loopback, 8300)] }
    nameless.RefusesBrackets ∧ Net.Ipv6.parse? "::1".toList = some loopback ∧
      parse "tcp://[::1]:8300" = .ok (.tcp "[::1]" 8300) ∧
      idle.bind nameless (.tcp "[::1]" 8300) =
        .error (.resolve "[::1]" 8300 "name not known") ∧
      Client.connect nameless (.tcp "[::1]" 8300) served =
        .error (.resolve "tcp://[::1]:8300") ∧
      Client.connect nameless (.tcp "::1" 8300) served = .ok .fresh ∧
      ¬ Designates nameless "[::1]" 8300 (.v6 loopback) := by
  intro idle served
  refine ⟨refusesBrackets_nameless, by decide +kernel, by decide +kernel, rfl, rfl, rfl, ?_⟩
  intro h
  have hconnects := h.connects served
  rw [if_pos List.mem_cons_self] at hconnects
  cases hconnects

end Settings.Endpoint

end ManagementServer
