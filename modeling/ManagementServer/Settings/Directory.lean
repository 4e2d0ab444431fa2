import ManagementServer.Files.Tree
import ManagementServer.Settings.Endpoint

/-!
# The directory of a socket

Before a server listens on a Unix socket, the directory of the socket has to be there.
-/

namespace ManagementServer.Settings

/-- Why the directory of a socket could not be made ready. -/
inductive DirectoryError where
  | missingParent (path : String)
  | createDirectory (path : String) (fault : Files.Fault)
  deriving DecidableEq, Repr

/-- The wording of an error; the fault has no text of its own. -/
def DirectoryError.message : DirectoryError → String
  | .missingParent path => s!"socket path '{path}' has no parent directory"
  | .createDirectory path _ => s!"failed to create socket directory '{path}': <detail>"

/-- Makes the directory of an endpoint's socket. Something else that is in the way is left for the
listener to meet. -/
def Endpoint.prepare (endpoint : Endpoint) (tree : Files.Tree) :
    Files.Tree × Except DirectoryError Unit :=
  match endpoint with
  | .tcp _ _ => (tree, .ok ())
  | .unix path =>
    match (Files.Path.parent? path).filter (· != "") with
    | none => (tree, .error (.missingParent path))
    | some parent =>
      let steps := Files.Path.steps parent
      match tree.makeAll steps.isAbsolute steps.names with
      | (tree, none) => (tree, .ok ())
      | (tree, some .occupied) => (tree, .ok ())
      | (tree, some fault) => (tree, .error (.createDirectory parent fault))

end ManagementServer.Settings
