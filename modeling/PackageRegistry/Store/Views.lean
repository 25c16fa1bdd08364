import PackageRegistry.Store.Tables
import PackageRegistry.Store.Joins
import PackageRegistry.Store.Schema
import PackageRegistry.Sql.Query
/-!
# The package and user views

The packages view has every column of a package with its downloads, owner name and one tag (a
row per tag, or one without); the users view every column of a user with counts, social
accounts and hashed API key.
-/

namespace PackageRegistry.Store

open PackageRegistry.Sql

/-- An optional text as a value. -/
def optText : Option String → SqlValue
  | some s => .ofString s
  | none => .null

/-- The columns of the packages view. -/
def packageColumns : List Column :=
  [⟨"id", .integer, none⟩, ⟨"name", .text, none⟩, ⟨"owner_id", .integer, none⟩, ⟨"latest_version", .text, none⟩,
   ⟨"published_at", .numeric, none⟩, ⟨"last_released_at", .numeric, none⟩, ⟨"description", .text, none⟩,
   ⟨"license", .text, none⟩, ⟨"homepage_url", .text, none⟩, ⟨"repository_url", .text, none⟩,
   ⟨"documentation_url", .text, none⟩, ⟨"bugs_url", .text, none⟩, ⟨"engines_go", .text, none⟩, ⟨"os", .text, none⟩,
   ⟨"downloads", .integer, none⟩, ⟨"owner_username", .text, none⟩, ⟨"tag", .text, none⟩]

/-- The columns a packages query returns. -/
def packageResultColumns : List String :=
  ["id", "name", "owner_username", "downloads", "latest_version", "published_at",
   "last_released_at", "description", "license", "homepage_url", "repository_url",
   "documentation_url", "bugs_url", "engines_go", "os"]

/-- The tags of a package, in order. -/
def Registry.tagsOf (r : Registry) (packageId : Int) : List String :=
  ((r.tags.filter (·.packageId == packageId)).map (·.tag)).mergeSort fun a b => decide (a ≤ b)

/-- The packages with their download counts: `packages LEFT JOIN package_downloads`, grouped by
`packages.id`. The id is the table's rowid, so each package row is a group of its own: the rows
are told apart by their place. -/
def Registry.countedPackages (r : Registry) : List (PackageRecord × Nat) :=
  (groupCount (·.2) (leftJoin (fun x => r.downloads.filter (·.packageId == x.1.id))
    r.packages.zipIdx)).map fun g => (g.1.1, g.2)

/-- The rows of the packages view: the counted packages joined with their owners (looked up by
`users.id`, the rowid, so at most one each) and left joined with their tags (read through the
index on package and tag, so in order). -/
def Registry.packageRows (r : Registry) : List (List SqlValue) :=
  let owned := innerJoin (fun c => (r.users.find? (·.id == c.1.ownerId)).toList) r.countedPackages
  (leftJoin (fun o => r.tagsOf o.1.1.id) owned).map fun ⟨⟨⟨p, downloads⟩, owner⟩, tag⟩ =>
    [.integer p.id, .ofString p.name, .integer p.ownerId, .ofString p.latestVersion,
     .ofString p.publishedAt.storageText, .ofString p.lastReleasedAt.storageText,
     optText p.description, optText p.license, optText p.homepageUrl,
     optText p.repositoryUrl, optText p.documentationUrl, optText p.bugsUrl,
     optText p.enginesGo, optText p.os, .integer downloads, .ofString owner.username,
     optText tag]

/-- The packages view. Its filter has height four: two join constraints (tags by package, owner
by id) under one `AND`. -/
def Registry.packagesView (r : Registry) : Relation :=
  { source := { table := "packages", columns := packageColumns, rowid := .column 0 }, result := packageResultColumns, distinct := true,
    rows := r.packageRows, innerFilter := some 4 }

def userColumns : List Column :=
  [⟨"id", .integer, none⟩, ⟨"name", .text, none⟩, ⟨"packages_count", .integer, none⟩, ⟨"joined_at", .numeric, none⟩,
   ⟨"email", .text, none⟩, ⟨"is_public_email", .numeric, none⟩, ⟨"username", .text, none⟩, ⟨"password", .text, none⟩,
   ⟨"avatar", .text, none⟩, ⟨"url", .text, none⟩, ⟨"organization", .text, none⟩, ⟨"location", .text, none⟩,
   ⟨"github", .text, none⟩, ⟨"twitter", .text, none⟩, ⟨"stack_overflow", .text, none⟩, ⟨"linkedin", .text, none⟩,
   ⟨"api_key", .text, none⟩]

/-- The users with the number of packages they own: `users LEFT JOIN packages`, grouped by
`users.id`, the rowid, so each user row is a group of its own. -/
def Registry.countedUsers (r : Registry) : List (UserRecord × Nat) :=
  (groupCount (·.2) (leftJoin (fun x => r.packages.filter (·.ownerId == x.1.id))
    r.users.zipIdx)).map fun g => (g.1.1, g.2)

/-- The rows of the users view: the counted users left joined with their social accounts and
their API keys, both looked up by `user_id`, the rowid of their tables, so at most one each. -/
def Registry.userRows (r : Registry) : List (List SqlValue) :=
  let withSocial := leftJoin (fun c => (r.socials.find? (·.userId == c.1.id)).toList)
    r.countedUsers
  (leftJoin (fun s => (r.apiKeys.find? (·.userId == s.1.1.id)).toList) withSocial).map
    fun ⟨⟨⟨u, packagesCount⟩, social⟩, key⟩ =>
      [.integer u.id, optText u.name, .integer packagesCount,
       .ofString u.joinedAt.storageText, .ofString u.email,
       .integer (if u.isPublicEmail then 1 else 0), .ofString u.username, .ofString u.password,
       optText u.avatar, optText u.url, optText u.organization, optText u.location,
       optText (social.bind (·.github)), optText (social.bind (·.twitter)),
       optText (social.bind (·.stackOverflow)), optText (social.bind (·.linkedin)),
       optText (key.map (·.apiKey))]

/-- The users view. Its filter has height four: two join constraints (social accounts and keys
by user id) under one `AND`. -/
def Registry.usersView (r : Registry) : Relation :=
  { source := { table := "users", columns := userColumns, rowid := .column 0 }, result := userColumns.map (·.name), distinct := false,
    rows := r.userRows, innerFilter := some 4 }

/-! ## The stored tables -/

/-- A column of a stored table, by name and affinity. -/
def col (name : String) (affinity : Affinity) : Column := { name, affinity }

def flagValue (b : Bool) : SqlValue := .integer (if b then 1 else 0)

def Registry.usersTable (r : Registry) : Table :=
  { name := "users", declared := usersDef.columns,
    columns := [col "id" .integer, col "username" .text, col "name" .text, col "email" .text,
      col "is_public_email" .numeric, col "password" .text, col "avatar" .text, col "url" .text,
      col "organization" .text, col "location" .text, col "joined_at" .numeric],
    rows := r.users.map fun u =>
      [.integer u.id, .ofString u.username, optText u.name, .ofString u.email,
       flagValue u.isPublicEmail, .ofString u.password, optText u.avatar, optText u.url,
       optText u.organization, optText u.location, .ofString u.joinedAt.storageText] }

def Registry.socialsTable (r : Registry) : Table :=
  { name := "user_social_accounts", declared := socialsDef.columns,
    columns := [col "user_id" .integer, col "github" .text, col "twitter" .text,
      col "stack_overflow" .text, col "linkedin" .text],
    rows := (r.socials.mergeSort fun a b => decide (a.userId ≤ b.userId)).map fun s =>
      [.integer s.userId, optText s.github, optText s.twitter, optText s.stackOverflow,
       optText s.linkedin] }

def Registry.apiKeysTable (r : Registry) : Table :=
  { name := "user_api_keys", declared := apiKeysDef.columns,
    columns := [col "user_id" .integer, col "api_key" .text],
    rows := (r.apiKeys.mergeSort fun a b => decide (a.userId ≤ b.userId)).map fun k =>
      [.integer k.userId, .ofString k.apiKey] }

def Registry.packagesTable (r : Registry) : Table :=
  { name := "packages", declared := packagesDef.columns,
    columns := [col "id" .integer, col "name" .text, col "owner_id" .integer,
      col "latest_version" .text, col "published_at" .numeric, col "last_released_at" .numeric,
      col "description" .text, col "license" .text, col "homepage_url" .text,
      col "repository_url" .text, col "documentation_url" .text, col "bugs_url" .text,
      col "engines_go" .text, col "os" .text],
    rows := r.packages.map fun p =>
      [.integer p.id, .ofString p.name, .integer p.ownerId, .ofString p.latestVersion,
       .ofString p.publishedAt.storageText, .ofString p.lastReleasedAt.storageText,
       optText p.description, optText p.license, optText p.homepageUrl, optText p.repositoryUrl,
       optText p.documentationUrl, optText p.bugsUrl, optText p.enginesGo, optText p.os] }

def Registry.tagsTable (r : Registry) : Table :=
  { name := "package_tags", declared := tagsDef.columns,
    columns := [col "package_id" .integer, col "tag" .text],
    rows := r.tags.map fun t => [.integer t.packageId, .ofString t.tag] }

/-- The `package_downloads` table; a download's time is not kept, and reads as the fallback
timestamp. -/
def Registry.downloadsTable (r : Registry) : Table :=
  { name := "package_downloads", declared := downloadsDef.columns,
    columns := [col "id" .integer, col "package_id" .integer, col "downloaded_at" .numeric],
    rows := r.downloads.map fun d =>
      [.integer d.id, .integer d.packageId, .ofString Timestamp.fallback.storageText] }

def Registry.versionsTable (r : Registry) : Table :=
  { name := "package_versions", declared := versionsDef.columns,
    columns := [col "id" .integer, col "package_id" .integer, col "version" .text,
      col "released_at" .numeric, col "readme_name" .text, col "readme_size" .integer,
      col "readme_content" .blob],
    rows := r.versions.map fun v =>
      [.integer v.id, .integer v.packageId, .ofString v.version,
       .ofString v.releasedAt.storageText, optText v.readmeName,
       (v.readmeSize.map SqlValue.integer).getD .null,
       (v.readmeContent.map SqlValue.blob).getD .null] }

/-- The stored tables, which subqueries of a search may read, and the schema table. -/
def Registry.database (r : Registry) : Database :=
  { tables := [r.usersTable, r.socialsTable, r.apiKeysTable, r.packagesTable, r.tagsTable,
      r.downloadsTable, r.versionsTable],
    schema := registrySchema, defs := registryDefs, counts := r.counts, modules := r.modules }

end PackageRegistry.Store
