import PackageRegistry.Store.Timestamp.Read
import PackageRegistry.Sql.Convert
import PackageRegistry.Json.Value
import PackageRegistry.Package.Platform
/-!
# Package and user rows

A view query returns its columns in a fixed order; a row reads them into a record and shows it
as JSON. A user shows the e-mail only when public; the password and API key hashes never leave
the record.
-/

namespace PackageRegistry.Sql

open PackageRegistry.Store

def SqlValue.text? : SqlValue → Option String
  | .text bs => some (stringOfBytes bs)
  | _ => none

def SqlValue.integerD : SqlValue → Int
  | .integer n => n
  | _ => 0

/-- The timestamp a stored text holds. -/
def SqlValue.timestamp? (v : SqlValue) : Option Timestamp :=
  v.text?.bind Timestamp.parse?

/-- Whether a stored flag is set: any value but `NULL`, zero and empty text. -/
def SqlValue.isSet : SqlValue → Bool
  | .null => false
  | .integer n => n != 0
  | .real x => x != 0
  | .text bs => !bs.isEmpty
  | .blob bs => !bs.isEmpty

end PackageRegistry.Sql

namespace PackageRegistry.Store

open PackageRegistry.Sql

/-- A timestamp in ISO form, or `null`. -/
def isoJson : Option Timestamp → Json
  | some t => .str t.isoText
  | none => .null

/-- A package as the packages view shows it. -/
structure PackageRow where
  id : Int
  name : String
  ownerUsername : String
  downloads : Int
  latestVersion : String
  publishedAt : Option Timestamp
  lastReleasedAt : Option Timestamp
  description : Option String
  license : Option String
  homepageUrl : Option String
  repositoryUrl : Option String
  documentationUrl : Option String
  bugsUrl : Option String
  enginesGo : Option String
  os : Option String
  deriving Repr, BEq

/-- Reads a package row from the packages view's returned columns, in order. -/
def PackageRow.ofValues (vs : List SqlValue) : PackageRow :=
  let at_ (i : Nat) : SqlValue := vs.getD i .null
  { id := (at_ 0).integerD, name := ((at_ 1).text?).getD "",
    ownerUsername := ((at_ 2).text?).getD "", downloads := (at_ 3).integerD,
    latestVersion := ((at_ 4).text?).getD "", publishedAt := (at_ 5).timestamp?,
    lastReleasedAt := (at_ 6).timestamp?, description := (at_ 7).text?,
    license := (at_ 8).text?, homepageUrl := (at_ 9).text?, repositoryUrl := (at_ 10).text?,
    documentationUrl := (at_ 11).text?, bugsUrl := (at_ 12).text?,
    enginesGo := (at_ 13).text?, os := (at_ 14).text? }

/-- A package as clients see it. -/
def PackageRow.toJson (p : PackageRow) : Json :=
  .obj [("id", .int p.id), ("name", .str p.name), ("owner", .str p.ownerUsername),
    ("downloads", .int p.downloads), ("version", .str p.latestVersion),
    ("publishedAt", isoJson p.publishedAt), ("lastReleasedAt", isoJson p.lastReleasedAt),
    ("description", .ofOption p.description), ("license", .ofOption p.license),
    ("homepage", .ofOption p.homepageUrl), ("repository", .ofOption p.repositoryUrl),
    ("documentation", .ofOption p.documentationUrl), ("bugs", .ofOption p.bugsUrl),
    ("engines", .obj [("go", .ofOption p.enginesGo)]),
    ("os", .arr ((Package.platforms (p.os.getD "")).map .str))]

/-- A user as the users view shows it. -/
structure UserRow where
  id : Int
  username : String
  name : Option String
  email : String
  isPublicEmail : Bool
  packagesCount : Int
  joinedAt : Option Timestamp
  password : Option String
  avatar : Option String
  url : Option String
  organization : Option String
  location : Option String
  github : Option String
  twitter : Option String
  stackOverflow : Option String
  linkedin : Option String
  apiKey : Option String
  deriving Repr, BEq

/-- Reads a user row from the columns of the users view, in their order. -/
def UserRow.ofValues (vs : List SqlValue) : UserRow :=
  let at_ (i : Nat) : SqlValue := vs.getD i .null
  { id := (at_ 0).integerD, name := (at_ 1).text?, packagesCount := (at_ 2).integerD,
    joinedAt := (at_ 3).timestamp?, email := ((at_ 4).text?).getD "",
    isPublicEmail := (at_ 5).isSet, username := ((at_ 6).text?).getD "",
    password := (at_ 7).text?, avatar := (at_ 8).text?, url := (at_ 9).text?,
    organization := (at_ 10).text?, location := (at_ 11).text?, github := (at_ 12).text?,
    twitter := (at_ 13).text?, stackOverflow := (at_ 14).text?, linkedin := (at_ 15).text?,
    apiKey := (at_ 16).text? }

/-- A user as clients see it. -/
def UserRow.toJson (u : UserRow) : Json :=
  .obj [("id", .int u.id), ("username", .str u.username), ("name", .ofOption u.name),
    ("email", if u.isPublicEmail then .str u.email else .null),
    ("packages", .int u.packagesCount), ("joinedAt", isoJson u.joinedAt),
    ("avatar", .ofOption u.avatar), ("url", .ofOption u.url),
    ("organization", .ofOption u.organization), ("location", .ofOption u.location),
    ("social", .obj [("github", .ofOption u.github), ("twitter", .ofOption u.twitter),
      ("stackOverflow", .ofOption u.stackOverflow), ("linkedin", .ofOption u.linkedin)])]

end PackageRegistry.Store
