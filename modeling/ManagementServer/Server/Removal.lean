import ManagementServer.Json.Member
import ManagementServer.Server.Dispatch

/-!
# Removing sessions

Taking sessions out of the registry and closing them, with nothing happening in between.
-/

namespace ManagementServer.Server

variable {μ : Type}

/-- The delivery whose end closing a session waits for. -/
def Closing.awaited? : Closing → Option Session.DeliveryRef
  | .join delivery => some delivery
  | _ => none

/-- Closes a session in up to `fuel` steps. -/
def Closing.run (now : Time.Instant) : Nat → Closing → Action (Shared μ) Unit
  | _, .done => pure ()
  | 0, _ => pure ()
  | fuel + 1, closing => do
    match closing.awaited? with
    | some delivery => Shared.deliver now delivery
    | none => pure ()
    run now fuel (← closing.step)

namespace Shared

/-- Closes a session that was taken out of the registry. -/
def closeSession (now : Time.Instant) (session : Session.Ref) : Action (Shared μ) Unit := do
  Closing.run now (← Action.view Dispatch.enough) (.mark session)
  Action.log .debug .sessions "session removed"
    [("session", .string (← Action.view (·.sessions.record session)).id)]

/-- Removes whichever session is registered under an id. -/
def remove (now : Time.Instant) (id : String) : Action (Shared μ) (Option Session.Ref) := do
  match ← changeSessions (·.detachId id) with
  | none => return none
  | some session =>
    closeSession now session
    return some session

/-- Removes a session, if it is the one registered under its id. -/
def removeRef (now : Time.Instant) (session : Session.Ref) : Action (Shared μ) Bool := do
  if ← changeSessions (·.detachRef session) then
    closeSession now session
    return true
  else return false

/-- Closes sessions one after the other, without a record in the log. -/
def closeSessions (now : Time.Instant) : List Session.Ref → Action (Shared μ) Unit
  | [] => pure ()
  | session :: rest => do
    Closing.run now (← Action.view Dispatch.enough) (.mark session)
    closeSessions now rest

/-- Removes every session. Returns their number. -/
def drain (now : Time.Instant) : Action (Shared μ) Nat := do
  let sessions ← changeSessions (·.detachAll)
  closeSessions now sessions
  return sessions.length

end Shared

/-- What closing a connection comes to where a script says so. It may be that meanwhile a session is
removed, and another one registered under its id. -/
inductive ScriptedClose where
  | success
  | unknown
  | failure (detail : String)
  | replace (id : String) (connection : Option ConnectionId)
  deriving Repr, Inhabited

/-- Reads what closing a connection comes to. -/
def ScriptedClose.ofJson : Json → ScriptedClose
  | .string "unknown" => .unknown
  | .string detail => .failure detail
  | other => .replace (other.textField "replace") ((other.natField? "conn").map ConnectionId.mk)

/-- Closes connections as a script says. -/
def scriptedCloser (now : Time.Instant) (script : List (ConnectionId × ScriptedClose)) :
    Closer μ := fun connection mode => do
  Action.emit (.closeRequested connection mode)
  match (script.lookup connection).getD .success with
  | .success => return .ok ()
  | .unknown => return .error (.unknownConnection connection)
  | .failure detail => return .error (.shutdown connection detail)
  | .replace id successor =>
    let _ ← Shared.remove now id
    match successor with
    | some other =>
      let _ ← Shared.onSessions (Session.Registry.add id "successor" .empty other)
    | none => pure ()
    return .ok ()

end ManagementServer.Server
