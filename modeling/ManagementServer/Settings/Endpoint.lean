import ManagementServer.Json.Decode
import ManagementServer.Url.Basic

/-!
# Socket endpoints

Where the server listens: a Unix socket or a TCP port. An endpoint is written as a URL
(`Endpoint.text`, `Endpoint.parse`) or as a tagged message (`Endpoint.encode`, `Endpoint.decode`).
-/

namespace ManagementServer.Settings

/-- Where a server listens. -/
inductive Endpoint where
  | unix (path : String)
  | tcp (host : String) (port : Nat)
  deriving DecidableEq, Repr, Inhabited

namespace Endpoint

/-- The path of a Unix socket. -/
def unixPath? : Endpoint → Option String
  | .unix path => some path
  | .tcp _ _ => none

/-- The endpoint as a URL. -/
def text : Endpoint → String
  | .unix path => "unix://" ++ path
  | .tcp host port => s!"tcp://{host}:{port}"

/-- Why a text names no endpoint. -/
inductive ParseError where
  | unsupportedScheme (scheme : String)
  | missingHost (input : String)
  | missingPort (input : String)
  | missingUnixPath (input : String)
  | url
  deriving DecidableEq, Repr

/-- The wording of an error; a text that is no URL has none of its own. -/
def ParseError.message : ParseError → String
  | .unsupportedScheme scheme => s!"unsupported socket scheme '{scheme}'"
  | .missingHost input => s!"missing TCP host in '{input}'"
  | .missingPort input => s!"missing TCP port in '{input}'"
  | .missingUnixPath input => s!"missing Unix socket path in '{input}'"
  | .url => "<detail>"

/-- Reads an endpoint from a URL. -/
def parse (input : String) : Except ParseError Endpoint :=
  match Url.parse? input.toList with
  | none => .error .url
  | some url =>
    match url.scheme with
    | "unix" =>
      if url.path == "" || url.path == "/" then .error (.missingUnixPath input)
      else .ok (.unix url.path)
    | "tcp" =>
      match url.host, url.port with
      | none, _ => .error (.missingHost input)
      | some _, none => .error (.missingPort input)
      | some host, some port => .ok (.tcp host port)
    | scheme => .error (.unsupportedScheme scheme)

/-- The written form. -/
def encode : Endpoint → Json
  | .unix path => .object [("transport", .string "unix"), ("path", .string path)]
  | .tcp host port =>
    .object [("transport", .string "tcp"), ("host", .string host), ("port", .ofNat port)]

/-- How each kind of endpoint is read. -/
def tagged : Tagged Endpoint where
  tag := "transport"
  cases :=
    [("unix", .unix <$> Record.required "path" Decoder.text),
      ("tcp", .tcp <$> Record.required "host" Decoder.text
        <*> Record.required "port" (Decoder.natBelow 65536))]

/-- Reads the written form. -/
def decode : Decoder Endpoint := tagged.read

end Endpoint

end ManagementServer.Settings
