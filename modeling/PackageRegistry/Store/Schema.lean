import PackageRegistry.Sql.Schema
/-!
# The registry's schema

The tables in creation order, each with its columns, keys, constraints and indexes.
-/

namespace PackageRegistry.Store

open PackageRegistry.Sql

/-- A column declared `NOT NULL`. -/
def required (name declaredType : String) : ColumnDecl :=
  { name, declaredType, notNull := true }

/-- A column that may be `NULL`. -/
def optional (name declaredType : String) : ColumnDecl :=
  { name, declaredType }

/-- An integer column that is the whole primary key. -/
def primaryId (name : String) : ColumnDecl :=
  { name, declaredType := "INTEGER", notNull := true, primaryKey := 1 }

def usersDef : TableDef :=
  { name := "users",
    columns := [primaryId "id", required "username" "VARCHAR(64)", optional "name" "VARCHAR(256)",
      required "email" "VARCHAR(256)",
      { name := "is_public_email", declaredType := "BOOLEAN", notNull := true, default := some "'0'" },
      required "password" "VARCHAR(128)", optional "avatar" "TEXT", optional "url" "TEXT",
      optional "organization" "VARCHAR(256)", optional "location" "VARCHAR(256)",
      required "joined_at" "DATETIME"],
    constraints := [.primaryKey ["id"], .unique none ["username"], .unique none ["email"]],
    indexes := [⟨"ix_users_joined_at", ["joined_at"]⟩] }

/-- The `user_social_accounts` table. -/
def socialsDef : TableDef :=
  { name := "user_social_accounts",
    columns := [primaryId "user_id", optional "github" "VARCHAR(128)",
      optional "twitter" "VARCHAR(128)", optional "stack_overflow" "VARCHAR(128)",
      optional "linkedin" "VARCHAR(128)"],
    constraints := [.primaryKey ["user_id"], .foreignKey ["user_id"] "users" ["id"]] }

/-- The `user_api_keys` table. -/
def apiKeysDef : TableDef :=
  { name := "user_api_keys",
    columns := [primaryId "user_id", required "api_key" "VARCHAR(128)"],
    constraints := [.primaryKey ["user_id"], .foreignKey ["user_id"] "users" ["id"],
      .unique none ["api_key"]] }

def packagesDef : TableDef :=
  { name := "packages",
    columns := [primaryId "id", required "name" "VARCHAR(214)", required "owner_id" "INTEGER",
      required "latest_version" "VARCHAR(64)", required "published_at" "DATETIME",
      required "last_released_at" "DATETIME", optional "description" "TEXT",
      optional "license" "VARCHAR(64)", optional "homepage_url" "TEXT",
      optional "repository_url" "TEXT", optional "documentation_url" "TEXT",
      optional "bugs_url" "TEXT", optional "engines_go" "VARCHAR(64)", optional "os" "TEXT"],
    constraints := [.primaryKey ["id"], .unique none ["name"],
      .foreignKey ["owner_id"] "users" ["id"]],
    indexes := [⟨"ix_packages_owner_id", ["owner_id"]⟩,
      ⟨"ix_packages_published_at", ["published_at"]⟩,
      ⟨"ix_packages_last_released_at", ["last_released_at"]⟩] }

/-- The `package_tags` table. -/
def tagsDef : TableDef :=
  { name := "package_tags",
    columns := [{ name := "package_id", declaredType := "INTEGER", notNull := true, primaryKey := 1 },
      { name := "tag", declaredType := "VARCHAR(64)", notNull := true, primaryKey := 2 }],
    constraints := [.primaryKey ["package_id", "tag"],
      .foreignKey ["package_id"] "packages" ["id"]],
    indexes := [⟨"ix_package_tags_tag", ["tag"]⟩] }

/-- The `package_downloads` table. -/
def downloadsDef : TableDef :=
  { name := "package_downloads",
    columns := [primaryId "id", required "package_id" "INTEGER",
      required "downloaded_at" "DATETIME"],
    constraints := [.primaryKey ["id"], .foreignKey ["package_id"] "packages" ["id"]],
    indexes := [⟨"ix_package_downloads_package_id", ["package_id"]⟩] }

/-- The `package_versions` table. -/
def versionsDef : TableDef :=
  { name := "package_versions",
    columns := [primaryId "id", required "package_id" "INTEGER", required "version" "VARCHAR(64)",
      required "released_at" "DATETIME", optional "readme_name" "VARCHAR(256)",
      optional "readme_size" "INTEGER", optional "readme_content" "BLOB"],
    constraints := [.primaryKey ["id"], .unique (some "uq_package_versions") ["package_id", "version"],
      .foreignKey ["package_id"] "packages" ["id"]] }

/-- The registry's tables in the order they were created. -/
def registryDefs : List TableDef :=
  [usersDef, socialsDef, apiKeysDef, packagesDef, tagsDef, downloadsDef, versionsDef]

/-- The entries of the registry's schema table. -/
def registrySchema : List SchemaEntry := schemaEntries 2 registryDefs

end PackageRegistry.Store
