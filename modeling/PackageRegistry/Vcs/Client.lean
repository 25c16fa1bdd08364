import PackageRegistry.Json.Read
import PackageRegistry.Json.Write
import PackageRegistry.Text.Blank
import PackageRegistry.Text.Percent
/-!
# The VCS registry client

Registering sends `POST /v1/packages`, expecting `201`; deleting `DELETE /v1/packages/<name>`,
expecting `204`. An unsent request fails with `<METHOD> <url> failed: <reason>`, another status
with `Response code <status>: <message>`.
-/

namespace PackageRegistry.Vcs

open PackageRegistry.Text

/-- Who may see a package in the VCS registry. -/
inductive Visibility where
  | everyone
  | ownerOnly
  deriving Repr, BEq, DecidableEq

/-- The number the registry uses for a visibility. -/
def Visibility.code : Visibility → Nat
  | .everyone => 0
  | .ownerOnly => 1

/-- The owner of a package as the registry records it. -/
structure PackageOwner where
  name : String
  publicEmail : String
  username : String
  deriving Repr, BEq, DecidableEq

/-- Package metadata sent along with a payload. -/
structure PackageMeta where
  name : String
  version : String
  owner : PackageOwner
  visibility : Visibility := .everyone
  deriving Repr, BEq, DecidableEq

/-- The metadata document. -/
def PackageMeta.toJson (m : PackageMeta) : Json :=
  .obj [("type", .int m.visibility.code), ("name", .str m.name), ("version", .str m.version),
    ("owner", .obj [("name", .str m.owner.name), ("publicEmail", .str m.owner.publicEmail),
      ("username", .str m.owner.username)])]

/-- Where the registry listens and how requests authenticate. -/
structure Client where
  host : String := "localhost"
  port : Int := 8080
  authKey : Option String := none
  deriving Repr, BEq

def userAgent : String := "GoPx API Service/0.1.0"

def Client.baseUrl (c : Client) : String :=
  "http://" ++ c.host ++ ":" ++ toString c.port

/-- The authorization header value, when a non-empty key is configured. -/
def Client.authorization (c : Client) : Option String :=
  match c.authKey with
  | some key => if key.isEmpty then none else some ("AuthKey " ++ key)
  | none => none

/-- The headers of every request, sorted by name. -/
def Client.headers (c : Client) : List (String × String) :=
  match c.authorization with
  | some a => [("Authorization", a), ("User-Agent", userAgent)]
  | none => [("User-Agent", userAgent)]

/-- An upload: the metadata and the payload text with its file name. -/
structure Upload where
  metadata : PackageMeta
  data : String
  filename : String
  deriving Repr, BEq

/-- A request to the registry. -/
structure Request where
  method : String
  url : String
  headers : List (String × String)
  upload : Option Upload := none
  deriving Repr, BEq

/-- The request that uploads a payload. -/
def Client.registerRequest (c : Client) (m : PackageMeta) (data : String) : Request :=
  { method := "POST", url := c.baseUrl ++ "/v1/packages", headers := c.headers,
    upload := some ⟨m, data, m.name ++ ".tar.gz"⟩ }

/-- The request that removes a package's payloads. -/
def Client.deleteRequest (c : Client) (name : String) : Request :=
  { method := "DELETE", url := c.baseUrl ++ "/v1/packages/" ++ percentEncode "" name,
    headers := c.headers }

/-- The answer of the registry, or why none came. -/
inductive Outcome where
  | response (status : Int) (body : String) (reason : Option String)
  | unreachable (reason : String)
  deriving Repr, BEq

/-- Why a registry request failed. -/
inductive VcsError where
  | connection (method url reason : String)
  | unexpectedStatus (status : Int) (message : String)
  deriving Repr, BEq, DecidableEq

/-- The text of a failure. -/
def VcsError.message : VcsError → String
  | .connection method url reason => method ++ " " ++ url ++ " failed: " ++ reason
  | .unexpectedStatus status message => "Response code " ++ toString status ++ ": " ++ message

/-! ## Error bodies

The decoder of an error body shares a bounded call stack with its caller, so the nesting allowed
depends on where it is read: 990 containers alone, 988 in a registry request, 979 in a command
line request. -/

/-- The nesting an error body may have when its message is read on its own. -/
def messageRoom : Nat := 990

/-- The nesting an error body may have when a registry request reads it. -/
def requestRoom : Nat := 988

/-- The nesting an error body may have when a request of the command line reads it. -/
def commandRoom : Nat := 979

/-- An error body's message nesting at most `room`: an object's truthy `message`, else the
compact body; if not JSON, trimmed text, reason or a stock phrase. -/
def errorMessage (room : Nat) (body : String) (reason : Option String) :
    Except Json.TooDeep String :=
  match Json.read room body with
  | .ok (.obj members) =>
    match members.lookup "message" with
    | some m => .ok (if m.isTruthy then (match m with
        | .str s => s
        | other => other.literal) else Json.compact (.obj members))
    | none => .ok (Json.compact (.obj members))
  | .ok other => .ok (Json.compact other)
  | .error (.tooDeep d) => .error d
  | .error .malformed =>
    let text := trim body
    .ok (if !text.isEmpty then text
      else match reason with
        | some r => if r.isEmpty then "no response body" else r
        | none => "no response body")

/-- A request's result given the status it expects; its error body may nest `room` deep. -/
def Request.settle (r : Request) (room : Nat) (expected : Int) :
    Outcome → Except Json.TooDeep (Except VcsError Unit)
  | .unreachable reason => .ok (.error (.connection r.method r.url reason))
  | .response status body reason =>
    if status = expected then .ok (.ok ())
    else do
      let message ← errorMessage room body reason
      .ok (.error (.unexpectedStatus status message))

/-- The status a registration expects. -/
def registerStatus : Int := 201

/-- The status a deletion expects. -/
def deleteStatus : Int := 204

end PackageRegistry.Vcs
