/-!
# Invalid package metadata

Why a package name or version submitted for publishing is refused, and the text each refusal
shows: `Invalid package name: …` or `Invalid package version: …`.
-/

namespace PackageRegistry.Package

/-- What is wrong with a package name, in the order the rules are checked. -/
inductive NameFault where
  /-- Empty, or 214 characters or more. -/
  | length
  /-- Changed by lowercasing. -/
  | notLowercase
  /-- Holds a character that a URL path must escape. -/
  | notUrlSafe
  /-- Holds `@`, `.`, `~` or another reserved character. -/
  | specialCharacter
  deriving Repr, BEq, DecidableEq

/-- The reason a name fault gives. -/
def NameFault.reason : NameFault → String
  | .length => "must be non-empty and shorter than 214 characters"
  | .notLowercase => "must contain only lowercase characters"
  | .notUrlSafe => "must not contain non-URL-safe characters"
  | .specialCharacter =>
    "must not contain any of these special characters: @, ., ~, \\, /, !, ', (, ), *"

/-- Refused package metadata. -/
inductive ValidationError where
  | name (fault : NameFault)
  /-- A version that is not a semantic version. -/
  | version
  deriving Repr, BEq, DecidableEq

/-- The text of a refusal. -/
def ValidationError.message : ValidationError → String
  | .name fault => "Invalid package name: " ++ fault.reason
  | .version => "Invalid package version: should be in semver format"

end PackageRegistry.Package
