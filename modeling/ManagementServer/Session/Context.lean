import ManagementServer.Capability

/-!
# Who asks

What a module is told about the session that sends a request.
-/

namespace ManagementServer

/-- A session as modules see it. -/
structure SessionContext where
  sessionId : String
  username : String
  capabilities : CapabilitySet
  deriving DecidableEq, Repr, Inhabited

end ManagementServer
