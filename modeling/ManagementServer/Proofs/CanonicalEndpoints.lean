import ManagementServer.Proofs.EndpointText
import ManagementServer.Proofs.UrlHosts

/-!
# Endpoints in their own spelling

An endpoint is canonical if it names its socket as a URL does: by a plain path, or by a normal host
and a port (`Endpoint.IsCanonical`). Canonical endpoints are the ones that are read from URLs, and
the ones that are read back from what they are written as (`Endpoint.parse_text_of_parse`).
-/

namespace ManagementServer

namespace Url

/-! ## URLs with an authority -/

/-- The end of an authority that belongs to the path: a port ends at a backslash. -/
def behindPort (authority : List Char) : List Char :=
  match (splitHost false (splitUser authority).2).2 with
  | some cs => cs.dropWhile (· != '\\')
  | none => []

/-- The URL that stands behind two slashes. -/
def parseBehind? (scheme : String) (cs : List Char) : Option Url := do
  let (authority, rest) := splitAuthority false cs
  let (host, port) ← authority? authority rest
  return ⟨scheme, host, port, String.ofList (pathBehindAuthority (behindPort authority ++ rest))⟩

/-- How a text begins whose URL has an authority and a scheme that is not special. -/
structure Introduces (front : List Char) (scheme : String) : Prop where
  visible : ∀ c ∈ front, 0x20 < c.toNat
  read : ∀ rest, scheme? (front ++ rest) = some (scheme, '/' :: '/' :: rest)
  ordinary : specialSchemes.contains scheme = false

lemma introduces_unix : Introduces "unix://".toList "unix" :=
  ⟨by simp, fun _ => rfl, by decide⟩

lemma introduces_tcp : Introduces "tcp://".toList "tcp" :=
  ⟨by simp, fun _ => rfl, by decide⟩

lemma Introduces.parse? {front : List Char} {scheme : String} (h : Introduces front scheme)
    (tail : List Char) : Url.parse? (front ++ tail) = parseBehind? scheme (kept tail) := by
  have hsome : front ≠ [] := by
    rintro rfl
    cases h.read []
  rw [Url.parse?, cleaned_append h.visible hsome, h.read, Option.bind_eq_bind, Option.bind_some]
  dsimp only
  rw [h.ordinary, if_neg Bool.false_ne_true]
  rfl

/-- What reading leaves of such a URL. -/
structure IsNormal (url : Url) : Prop where
  host : ∀ name ∈ url.host, Host.IsNormal name.toList ∧ name ≠ ""
  port : ∀ n ∈ url.port, n < 65536
  path : url.path = "" ∨ ∃ cs, url.path = String.ofList (Path.normalize cs)

lemma pathBehindAuthority_cases (cs : List Char) :
    pathBehindAuthority cs = [] ∨ ∃ ds, pathBehindAuthority cs = Path.normalize ds := by
  unfold pathBehindAuthority
  split
  · exact .inl rfl
  · exact .inr ⟨_, rfl⟩
  · exact .inr ⟨_, rfl⟩

lemma parseBehind?_spec {scheme : String} {cs : List Char} {url : Url}
    (h : parseBehind? scheme cs = some url) : url.scheme = scheme ∧ url.IsNormal := by
  obtain ⟨⟨host, port⟩, hread, h⟩ := Option.bind_eq_some_iff.mp h
  cases h
  obtain ⟨hhost, hport⟩ := authority?_spec hread
  refine ⟨rfl, hhost, hport, ?_⟩
  rcases pathBehindAuthority_cases
      (behindPort (splitAuthority false cs).1 ++ (splitAuthority false cs).2) with hnone | ⟨ds, hds⟩
  · exact .inl (congrArg String.ofList hnone)
  · exact .inr ⟨ds, congrArg String.ofList hds⟩

/-- A host and a port behind two slashes. -/
lemma parseBehind?_of_isDelimited {text host : List Char} (hd : Host.IsDelimited text)
    (hread : Host.opaque? text = some host) (hsome : host ≠ []) {port : Nat} (hport : port < 65536)
    (scheme : String) :
    parseBehind? scheme (kept (text ++ ':' :: Text.Digits.ofNat port)) =
      some ⟨scheme, some (String.ofList host), some port, ""⟩ := by
  have hkept : kept (text ++ ':' :: Text.Digits.ofNat port) =
      text ++ ':' :: Text.Digits.ofNat port :=
    kept_of_visible fun c hc => (hd.ends port c hc).1
  have hbehind : behindPort (text ++ ':' :: Text.Digits.ofNat port) = [] := by
    rw [behindPort, splitUser_of_isDelimited hd, hd.whole]
    exact List.dropWhile_eq_nil_iff.mpr fun c hc => isInPort_of_mem hc
  rw [parseBehind?, hkept, splitAuthority_of_isDelimited hd]
  dsimp only
  rw [authority?_of_isDelimited hd hread hsome hport, hbehind]
  rfl

end Url

namespace Settings.Endpoint

open Url.Path (IsPlain normalize)

/-- An endpoint as it is read from a URL. -/
def IsCanonical : Endpoint → Prop
  | .unix path => path.toList.head? = some '/' ∧ path ≠ "/" ∧ IsPlain path.toList
  | .tcp host port => Url.Host.IsNormal host.toList ∧ host ≠ "" ∧ port < 65536

lemma toList_text_tcp (host : String) (port : Nat) :
    (text (.tcp host port)).toList =
      "tcp://".toList ++ (host.toList ++ ':' :: Text.Digits.ofNat port) := by
  have hwritten : text (.tcp host port) = "tcp://" ++ host ++ ":" ++ toString port := rfl
  simp [hwritten, Text.Digits.ofNat]

lemma begins_text (endpoint : Endpoint) :
    "unix://".toList <+: endpoint.text.toList ∨ "tcp://".toList <+: endpoint.text.toList := by
  cases endpoint with
  | unix path => exact .inl ⟨path.toList, String.toList_append.symm⟩
  | tcp host port => exact .inr ⟨_, (toList_text_tcp host port).symm⟩

/-- The text of a host with a port is read as that host, in its normal spelling, and that port. -/
lemma parse_text_tcp {literal : String} {host : List Char}
    (hd : Url.Host.IsDelimited literal.toList) (hread : Url.Host.opaque? literal.toList = some host)
    (hsome : host ≠ []) {port : Nat} (hport : port < 65536) :
    parse (text (.tcp literal port)) = .ok (.tcp (String.ofList host) port) := by
  rw [parse, toList_text_tcp, Url.introduces_tcp.parse?,
    Url.parseBehind?_of_isDelimited hd hread hsome hport]
  rfl

lemma parse_text_of_isCanonical {endpoint : Endpoint} (h : endpoint.IsCanonical) :
    parse endpoint.text = .ok endpoint := by
  cases endpoint with
  | unix path =>
    obtain ⟨habsolute, hroot, hplain⟩ := h
    exact parse_text_of_isPlain habsolute hroot hplain
  | tcp host port =>
    obtain ⟨hnormal, hsome, hport⟩ := h
    have hne : host.toList ≠ [] := fun hnil => hsome (String.toList_inj.mp hnil)
    have hread :=
      parse_text_tcp hnormal.isDelimited (Url.Host.opaque?_of_isNormal hnormal) hne hport
    rwa [String.ofList_toList] at hread

lemma isCanonical_of_isNormal {input : String} {url : Url} {endpoint : Endpoint}
    (hread : Url.parse? input.toList = some url) (hnormal : url.IsNormal)
    (h : parse input = .ok endpoint) : endpoint.IsCanonical := by
  rw [parse, hread] at h
  dsimp only at h
  split at h
  · split at h
    · cases h
    · rename_i hnamed
      cases h
      rw [Bool.or_eq_true, beq_iff_eq, beq_iff_eq, not_or] at hnamed
      obtain ⟨cs, hcs⟩ := hnormal.path.resolve_left hnamed.1
      obtain ⟨rest, hrest⟩ := Url.Path.normalize_eq_cons cs
      have hchars : url.path.toList = normalize cs := by rw [hcs, String.toList_ofList]
      refine ⟨?_, hnamed.2, hchars ▸ Url.Path.isPlain_normalize cs⟩
      rw [hchars, hrest]
      rfl
  · split at h
    · cases h
    · cases h
    · rename_i host port hhost hport
      cases h
      obtain ⟨hname, hsome⟩ := hnormal.host host hhost
      exact ⟨hname, hsome, hnormal.port port hport⟩
  · cases h

lemma isCanonical_of_parse {input : String} {endpoint : Endpoint}
    (hscheme : "unix://".toList <+: input.toList ∨ "tcp://".toList <+: input.toList)
    (h : parse input = .ok endpoint) : endpoint.IsCanonical := by
  have hnormal {front : List Char} {scheme : String} (hfront : Url.Introduces front scheme)
      (hbegin : front <+: input.toList) {url : Url} (hurl : Url.parse? input.toList = some url) :
      url.IsNormal := by
    obtain ⟨tail, htail⟩ := hbegin
    rw [← htail, hfront.parse?] at hurl
    exact (Url.parseBehind?_spec hurl).2
  cases hurl : Url.parse? input.toList with
  | none =>
    rw [parse, hurl] at h
    cases h
  | some url =>
    refine isCanonical_of_isNormal hurl ?_ h
    rcases hscheme with hunix | htcp
    · exact hnormal Url.introduces_unix hunix hurl
    · exact hnormal Url.introduces_tcp htcp hurl

/-- What is read of a text that begins like the URL of a socket is written as a text that is read
as the same endpoint. The endpoints that are read as they are written are the canonical ones. -/
theorem parse_text_of_parse {input : String} {endpoint : Endpoint}
    (hscheme : "unix://".toList <+: input.toList ∨ "tcp://".toList <+: input.toList)
    (h : parse input = .ok endpoint) :
    parse endpoint.text = .ok endpoint ∧
      ∀ e : Endpoint, parse e.text = .ok e ↔ e.IsCanonical := by
  have hcanonical : endpoint.IsCanonical := isCanonical_of_parse hscheme h
  refine ⟨parse_text_of_isCanonical hcanonical, fun e => ?_⟩
  constructor
  · exact isCanonical_of_parse (begins_text e)
  · exact parse_text_of_isCanonical

/-- A user and a path are dropped, and the address and the port get their shortest texts. -/
theorem parse_text_of_parse_spelling :
    let input := "tcp://admin:secret@[2001:DB8:0:0::0.0.0.1]:08300/x"
    let endpoint : Endpoint := .tcp "[2001:db8::1]" 8300
    "tcp://".toList <+: input.toList ∧ parse input = .ok endpoint ∧
      endpoint.text = "tcp://[2001:db8::1]:8300" ∧ parse endpoint.text = .ok endpoint ∧
      endpoint.IsCanonical := by
  intro input endpoint
  have hscheme : "tcp://".toList <+: input.toList := by decide +kernel
  have hread : parse input = .ok endpoint := by decide +kernel
  obtain ⟨hback, hcanonical⟩ := parse_text_of_parse (.inr hscheme) hread
  exact ⟨hscheme, hread, by decide +kernel, hback, (hcanonical endpoint).mp hback⟩

/-- Without the slashes a path need not begin with one, and what is written has another path. -/
example : parse "unix:run/a" = .ok (.unix "run/a") ∧
    parse (text (.unix "run/a")) = .ok (.unix "/a") := by
  decide +kernel

end Settings.Endpoint

end ManagementServer
