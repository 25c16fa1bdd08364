import PackageRegistry.Digest.Sha256
import PackageRegistry.Search.Clause
import PackageRegistry.Text.Base64
import PackageRegistry.Text.Blank
import PackageRegistry.Text.Utf8
/-!
# Credentials

An `Authorization` value is a scheme and credentials: `Basic` the strict base64 of UTF-8
`username:password` (split at the first colon), `APIKey` a key, any other scheme unsupported.
Secrets are stored as the hexadecimal SHA-256 of their UTF-8 octets.
-/

namespace PackageRegistry.Auth

open PackageRegistry.Text PackageRegistry.Digest PackageRegistry.Search

/-- Parsed credentials. -/
inductive Credentials where
  | basic (username password : String)
  | apiKey (key : String)
  | unknown (scheme : String)
  deriving Repr, BEq, DecidableEq

/-- Why credentials are refused. -/
inductive AuthError where
  /-- The header does not have a scheme and credentials. -/
  | malformedHeader
  /-- Basic credentials that are not strict base64 of UTF-8 text; the decoder's reason. -/
  | badBasicValue (reason : String)
  /-- Basic credentials with a character outside ASCII. -/
  | nonAsciiValue
  /-- A scheme that is not supported. -/
  | unsupportedScheme (scheme : String)
  /-- A secret that UTF-8 cannot encode, so it cannot be hashed. -/
  | unencodable (error : Utf8EncodeError)
  deriving Repr, BEq, DecidableEq

/-- The reason of a refusal. -/
def AuthError.reason : AuthError → String
  | .malformedHeader => "expected '<scheme> <credentials>'"
  | .badBasicValue reason => "invalid basic auth base64 value: " ++ reason
  | .nonAsciiValue => "string argument should contain only ASCII characters"
  | .unsupportedScheme scheme => "auth type " ++ scheme ++ " is not supported yet"
  | .unencodable e => e.message

/-- The text of a refusal. -/
def AuthError.message : AuthError → String
  | .nonAsciiValue => AuthError.nonAsciiValue.reason
  | .unencodable e => e.message
  | e => "Invalid auth data: " ++ e.reason

/-- Username and password of decoded Basic text: split at the first colon. -/
def splitUserPassword (s : String) : Credentials :=
  let cs := s.toList
  .basic (String.ofList (cs.takeWhile (· ≠ ':'))) (String.ofList ((cs.dropWhile (· ≠ ':')).drop 1))

/-- Decodes the value of Basic credentials. -/
def parseBasic (value : String) : Except AuthError Credentials :=
  if !value.toList.all (·.toNat < 0x80) then .error .nonAsciiValue
  else
    match base64Decode value with
    | .error e => .error (.badBasicValue e.message)
    | .ok bytes =>
      match decodeUtf8 bytes with
      | .error e => .error (.badBasicValue e.message)
      | .ok text => .ok (splitUserPassword text)

/-- Parses an `Authorization` header value. -/
def parseAuthorization (header : String) : Except AuthError Credentials :=
  match words header with
  | scheme :: value :: _ =>
    if scheme = "Basic" then parseBasic value
    else if scheme = "APIKey" then .ok (.apiKey value)
    else .ok (.unknown scheme)
  | _ => .error .malformedHeader

/-- A secret's stored form: the hexadecimal SHA-256 of its UTF-8 octets; none with a surrogate
stand-in. -/
def secretHash (secret : String) : Except Utf8EncodeError String :=
  (encodeUtf8 secret).map sha256Hex

/-- The clause that finds the user credentials belong to. -/
def Credentials.clause : Credentials → Except AuthError (Clause String)
  | .basic username password => do
    let hashed ← (secretHash password).mapError .unencodable
    .ok { fragment := "username = ? and password = ?", params := [username, hashed] }
  | .apiKey key => do
    let hashed ← (secretHash key).mapError .unencodable
    .ok { fragment := "api_key = ?", params := [hashed] }
  | .unknown scheme => .error (.unsupportedScheme scheme)

end PackageRegistry.Auth
