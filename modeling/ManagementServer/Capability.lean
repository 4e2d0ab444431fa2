import ManagementServer.Json.Decode
import ManagementServer.Text.Blank

/-!
# Capabilities

What a peer can do, as URIs. Two URIs that differ only in their query name one capability, so a set
holds at most one URI per base (`CapabilitySet.insert`), in the order of insertion.
-/

namespace ManagementServer

namespace Capability

/-- The text before the query, without blanks around it. -/
def base (uri : String) : String :=
  Text.trim (String.ofList (uri.toList.takeWhile (· != '?')))

/-- The first version of the protocol. -/
def protocol10 : String := "urn:ietf:params:netconf:base:1.0"

/-- The second version of the protocol. -/
def protocol11 : String := "urn:ietf:params:netconf:base:1.1"

/-- Event notifications. -/
def notification : String := "urn:ietf:params:netconf:capability:notification:1.0"

/-- Requests while notifications are delivered. -/
def interleave : String := "urn:ietf:params:netconf:capability:interleave:1.0"

end Capability

/-- A set of capabilities, in the order of insertion. -/
structure CapabilitySet where
  uris : List String
  deriving DecidableEq, Repr, Inhabited

namespace CapabilitySet

/-- The set without capabilities. -/
def empty : CapabilitySet := ⟨[]⟩

/-- Whether the capability that a URI names is in the set. -/
def contains (s : CapabilitySet) (uri : String) : Bool :=
  s.uris.any fun held => Capability.base held == Capability.base uri

/-- Adds a URI, unless it is blank or its capability is held already; says whether it was added. -/
def tryInsert (s : CapabilitySet) (uri : String) : CapabilitySet × Bool :=
  let trimmed := Text.trim uri
  if trimmed == "" || s.contains trimmed then (s, false) else (⟨s.uris ++ [trimmed]⟩, true)

/-- Adds a URI, unless it is blank or its capability is held already. -/
def insert (s : CapabilitySet) (uri : String) : CapabilitySet :=
  (s.tryInsert uri).1

/-- Adds URIs one after the other. -/
def insertAll (s : CapabilitySet) (uris : List String) : CapabilitySet :=
  uris.foldl insert s

/-- The set of the given URIs. -/
def ofList (uris : List String) : CapabilitySet :=
  empty.insertAll uris

/-- Adds the capabilities of another set. -/
def extend (s other : CapabilitySet) : CapabilitySet :=
  s.insertAll other.uris

/-- Whether the sets share a capability. -/
def intersects (s other : CapabilitySet) : Bool :=
  s.uris.any other.contains

/-- What the server itself can do. -/
def serverBase : CapabilitySet :=
  ofList
    [Capability.protocol10, Capability.protocol11, Capability.notification, Capability.interleave]

/-- The written form. -/
def encode (s : CapabilitySet) : Json :=
  Json.texts s.uris

/-- Reads the written form. -/
def decode : Decoder CapabilitySet := fun d =>
  ofList <$> Decoder.list Decoder.text d

end CapabilitySet

end ManagementServer
