import PackageRegistry.Store.Timestamp
import PackageRegistry.Auth.Credentials
import PackageRegistry.Sql.Schema
/-!
# The registry's tables

Seven tables of records in insertion order. Adding a record checks the constraints as the
database does; passwords and API keys are stored as SHA-256 hex digests.
-/

namespace PackageRegistry.Store

open PackageRegistry.Auth PackageRegistry.Text

/-- A user. -/
structure UserRecord where
  id : Int
  username : String
  name : Option String := none
  email : String
  isPublicEmail : Bool := false
  password : String
  avatar : Option String := none
  url : Option String := none
  organization : Option String := none
  location : Option String := none
  joinedAt : Timestamp := .fallback
  deriving Repr, BEq

/-- The social accounts of a user. -/
structure SocialRecord where
  userId : Int
  github : Option String := none
  twitter : Option String := none
  stackOverflow : Option String := none
  linkedin : Option String := none
  deriving Repr, BEq

/-- The hashed API key of a user. -/
structure ApiKeyRecord where
  userId : Int
  apiKey : String
  deriving Repr, BEq

/-- A package and the metadata of its latest release. -/
structure PackageRecord where
  id : Int
  name : String
  ownerId : Int
  latestVersion : String
  publishedAt : Timestamp := .fallback
  lastReleasedAt : Timestamp := .fallback
  description : Option String := none
  license : Option String := none
  homepageUrl : Option String := none
  repositoryUrl : Option String := none
  documentationUrl : Option String := none
  bugsUrl : Option String := none
  enginesGo : Option String := none
  os : Option String := none
  deriving Repr, BEq

/-- A tag of a package. -/
structure TagRecord where
  packageId : Int
  tag : String
  deriving Repr, BEq

/-- One download of a package. -/
structure DownloadRecord where
  id : Int
  packageId : Int
  deriving Repr, BEq

/-- A released version of a package, with its README. -/
structure VersionRecord where
  id : Int
  packageId : Int
  version : String
  releasedAt : Timestamp := .fallback
  readmeName : Option String := none
  readmeSize : Option Int := none
  readmeContent : Option (List UInt8) := none
  deriving Repr, BEq

/-- The registry database. -/
structure Registry where
  users : List UserRecord := []
  socials : List SocialRecord := []
  apiKeys : List ApiKeyRecord := []
  packages : List PackageRecord := []
  tags : List TagRecord := []
  downloads : List DownloadRecord := []
  versions : List VersionRecord := []
  counts : Sql.ChangeCounts := {}
  /-- The modules the connection has added for the pragma tables its queries named. -/
  modules : List String := []
  deriving Repr

/-! ## Refusals -/

/-- Why a record is refused. -/
inductive StoreError where
  /-- A uniqueness constraint over these `table.column` names. -/
  | unique (columns : List String)
  /-- No user has this name. -/
  | unknownUser (username : String)
  /-- No package has this name. -/
  | unknownPackage (name : String)
  /-- A secret that UTF-8 cannot encode, so it cannot be hashed. -/
  | unencodable (error : Utf8EncodeError)
  deriving Repr, BEq, DecidableEq

/-- The text of a refusal. -/
def StoreError.message : StoreError → String
  | .unique columns => "UNIQUE constraint failed: " ++ ", ".intercalate columns
  | .unknownUser name => "no user " ++ name
  | .unknownPackage name => "no package " ++ name
  | .unencodable e => e.message

/-! ## Lookups -/

/-- The next id after a list of ids. -/
def nextId (ids : List Int) : Int := (ids.foldl max 0) + 1

def Registry.userNamed? (r : Registry) (username : String) : Option UserRecord :=
  r.users.find? (·.username == username)

def Registry.packageNamed? (r : Registry) (name : String) : Option PackageRecord :=
  r.packages.find? (·.name == name)

def Registry.requireUser (r : Registry) (username : String) : Except StoreError UserRecord :=
  match r.userNamed? username with
  | some u => .ok u
  | none => .error (.unknownUser username)

/-- The package with a name, or a refusal. -/
def Registry.requirePackage (r : Registry) (name : String) : Except StoreError PackageRecord :=
  match r.packageNamed? name with
  | some p => .ok p
  | none => .error (.unknownPackage name)

/-! ## Adding records -/

/-- The fields of a new user; the password is given in plain text. -/
structure NewUser where
  username : String
  email : String
  name : Option String := none
  isPublicEmail : Bool := false
  password : String := ""
  avatar : Option String := none
  url : Option String := none
  organization : Option String := none
  location : Option String := none
  joinedAt : Timestamp := .fallback

def Registry.addUser (r : Registry) (u : NewUser) : Except StoreError Registry :=
  if r.users.any (·.email == u.email) then .error (.unique ["users.email"])
  else if r.users.any (·.username == u.username) then .error (.unique ["users.username"])
  else do
    let password ← (secretHash u.password).mapError .unencodable
    let record : UserRecord :=
      { id := nextId (r.users.map (·.id)), username := u.username, name := u.name,
        email := u.email, isPublicEmail := u.isPublicEmail, password,
        avatar := u.avatar, url := u.url, organization := u.organization,
        location := u.location, joinedAt := u.joinedAt }
    .ok { r with users := r.users ++ [record], counts := r.counts.inserted record.id }

def Registry.addSocial (r : Registry) (username : String)
    (github twitter stackOverflow linkedin : Option String) : Except StoreError Registry := do
  let u ← r.requireUser username
  if r.socials.any (·.userId == u.id) then .error (.unique ["user_social_accounts.user_id"])
  else
    .ok { r with socials := r.socials ++ [⟨u.id, github, twitter, stackOverflow, linkedin⟩],
                 counts := r.counts.inserted u.id }

/-- Adds the API key of a user, given in plain text. -/
def Registry.addApiKey (r : Registry) (username key : String) : Except StoreError Registry := do
  let u ← r.requireUser username
  let hashed ← (secretHash key).mapError .unencodable
  if r.apiKeys.any (·.userId == u.id) then .error (.unique ["user_api_keys.user_id"])
  else if r.apiKeys.any (·.apiKey == hashed) then .error (.unique ["user_api_keys.api_key"])
  else .ok { r with apiKeys := r.apiKeys ++ [⟨u.id, hashed⟩], counts := r.counts.inserted u.id }

/-- The fields of a new package; the owner is given by user name. -/
structure NewPackage where
  name : String
  owner : String
  latestVersion : String
  publishedAt : Timestamp := .fallback
  lastReleasedAt : Timestamp := .fallback
  description : Option String := none
  license : Option String := none
  homepageUrl : Option String := none
  repositoryUrl : Option String := none
  documentationUrl : Option String := none
  bugsUrl : Option String := none
  enginesGo : Option String := none
  os : Option String := none

def Registry.addPackage (r : Registry) (p : NewPackage) : Except StoreError Registry := do
  let owner ← r.requireUser p.owner
  if r.packages.any (·.name == p.name) then .error (.unique ["packages.name"])
  else
    let record : PackageRecord :=
      { id := nextId (r.packages.map (·.id)), name := p.name, ownerId := owner.id,
        latestVersion := p.latestVersion, publishedAt := p.publishedAt,
        lastReleasedAt := p.lastReleasedAt, description := p.description, license := p.license,
        homepageUrl := p.homepageUrl, repositoryUrl := p.repositoryUrl,
        documentationUrl := p.documentationUrl, bugsUrl := p.bugsUrl,
        enginesGo := p.enginesGo, os := p.os }
    .ok { r with packages := r.packages ++ [record], counts := r.counts.inserted record.id }

def Registry.addTag (r : Registry) (package tag : String) : Except StoreError Registry := do
  let p ← r.requirePackage package
  if r.tags.any (fun t => t.packageId == p.id && t.tag == tag) then
    .error (.unique ["package_tags.package_id", "package_tags.tag"])
  else
    .ok { r with tags := r.tags ++ [⟨p.id, tag⟩],
                 counts := r.counts.inserted (Int.ofNat r.tags.length + 1) }

/-- Records downloads of a package. -/
def Registry.addDownloads (r : Registry) (package : String) (count : Nat) :
    Except StoreError Registry := do
  let p ← r.requirePackage package
  let first := nextId (r.downloads.map (·.id))
  let added := (List.range count).map fun (i : Nat) => DownloadRecord.mk (first + Int.ofNat i) p.id
  .ok { r with downloads := r.downloads ++ added,
               counts := added.foldl (fun c d => c.inserted d.id) r.counts }

/-- The fields of a new version; the package is given by name. -/
structure NewVersion where
  package : String
  version : String
  releasedAt : Timestamp := .fallback
  readmeName : Option String := none
  readmeContent : Option (List UInt8) := none

def Registry.addVersion (r : Registry) (v : NewVersion) : Except StoreError Registry := do
  let p ← r.requirePackage v.package
  if r.versions.any (fun x => x.packageId == p.id && x.version == v.version) then
    .error (.unique ["package_versions.package_id", "package_versions.version"])
  else
    let record : VersionRecord :=
      { id := nextId (r.versions.map (·.id)), packageId := p.id, version := v.version,
        releasedAt := v.releasedAt, readmeName := v.readmeName,
        readmeSize := v.readmeContent.map fun c => (c.length : Int),
        readmeContent := v.readmeContent }
    .ok { r with versions := r.versions ++ [record], counts := r.counts.inserted record.id }

/-- The registry after a refused addition: the failed statement changed nothing. -/
def Registry.refused (r : Registry) : StoreError → Registry
  | .unique _ => { r with counts := r.counts.failed }
  | _ => r

end PackageRegistry.Store
