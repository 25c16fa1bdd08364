import PackageRegistry.Package.Invalid
import PackageRegistry.Text.Blank
import PackageRegistry.Text.Digit
import PackageRegistry.Text.Integer
/-!
# Semantic versions

Read from trimmed `v?MAJOR(.MINOR)?(.PATCH)?(-PRE)?(+BUILD)?`; minor and patch default to zero
and the build is dropped, so a version is stored as `MAJOR.MINOR.PATCH[-PRE]`.
-/

namespace PackageRegistry.Package

open PackageRegistry.Text

/-- A semantic version without build metadata. -/
structure SemVer where
  major : Nat
  minor : Nat
  patch : Nat
  prerelease : String
  deriving Repr, BEq, DecidableEq

/-- Why text is not read as a version. -/
inductive VersionError where
  /-- The text is not a semantic version. -/
  | invalid
  /-- A number has more digits than are read. -/
  | tooManyDigits (count : Nat)
  deriving Repr, BEq, DecidableEq

/-- A leading version number, `0` or `1`–`9` then digits: its characters and what follows. -/
def numberPrefix? : List Char → Option (List Char × List Char)
  | '0' :: rest => some (['0'], rest)
  | c :: rest =>
    if '1' ≤ c ∧ c ≤ '9' then
      some (c :: rest.takeWhile isDecimalDigit, rest.dropWhile isDecimalDigit)
    else none
  | [] => none

/-- Whether a character may appear in a prerelease or build identifier. -/
def isIdentifierChar (c : Char) : Bool :=
  (c.isAlphanum && c.toNat < 0x80) || c = '-'

/-- Whether characters are non-empty identifiers separated by single dots. -/
def isDottedIdentifiers (cs : List Char) : Bool :=
  (cs.splitOn '.').all fun part => !part.isEmpty && part.all isIdentifierChar

/-- The value of a version number's characters. -/
def numberValue (cs : List Char) : Except VersionError Nat :=
  match readDigitRun "" cs with
  | .ok n => .ok n
  | .error (.tooManyDigits count) => .error (.tooManyDigits count)
  | .error (.malformed _) => .error .invalid

/-- An optional `.NUMBER` part: its digits and what follows; refused when a dot is not
followed by a number. -/
def dottedNumber? (cs : List Char) : Option (Option (List Char) × List Char) :=
  match cs with
  | '.' :: rest =>
    match numberPrefix? rest with
    | some (n, after) => some (some n, after)
    | none => none
  | _ => some (none, cs)

/-- An optional prerelease `-PRE` and what follows it. -/
def prereleasePart? : List Char → Option (List Char × List Char)
  | '-' :: rest =>
    let p := rest.takeWhile (· ≠ '+')
    if isDottedIdentifiers p then some (p, rest.dropWhile (· ≠ '+')) else none
  | other => some ([], other)

/-- An optional build `+BUILD` ending the text. -/
def buildPart? : List Char → Option (List Char)
  | '+' :: rest => if isDottedIdentifiers rest then some rest else none
  | [] => some []
  | _ => none

/-- The text after an optional leading `v`. -/
def dropLeadingV : List Char → List Char
  | 'v' :: rest => rest
  | cs => cs

/-- The parts of a version text: major, minor and patch digits, prerelease and build. -/
def versionParts? (cs : List Char) :
    Option (List Char × Option (List Char) × Option (List Char) × List Char × List Char) := do
  let (major, afterMajor) ← numberPrefix? (dropLeadingV cs)
  let (minor, afterMinor) ← dottedNumber? afterMajor
  let (patch, afterPatch) ← match minor with
    | some _ => dottedNumber? afterMinor
    | none => some (none, afterMinor)
  let (pre, afterPre) ← prereleasePart? afterPatch
  let build ← buildPart? afterPre
  pure (major, minor, patch, pre, build)

/-- Reads a version from text, trimmed first. -/
def SemVer.parse (s : String) : Except VersionError SemVer :=
  match versionParts? (trimBlanks s.toList) with
  | none => .error .invalid
  | some (major, minor, patch, pre, _) => do
    let ma ← numberValue major
    let mi ← numberValue (minor.getD ['0'])
    let pa ← numberValue (patch.getD ['0'])
    pure ⟨ma, mi, pa, String.ofList pre⟩

/-- The stored form `MAJOR.MINOR.PATCH[-PRE]`. -/
def SemVer.text (v : SemVer) : String :=
  toString v.major ++ "." ++ toString v.minor ++ "." ++ toString v.patch ++
    (if v.prerelease.isEmpty then "" else "-" ++ v.prerelease)

/-- The stored form of a version text. -/
def sanitizeVersion (s : String) : Except VersionError String :=
  SemVer.text <$> SemVer.parse s

/-- Whether two version texts name the same version; the first is read first. -/
def sameVersion (a b : String) : Except VersionError Bool := do
  let va ← SemVer.parse a
  let vb ← SemVer.parse b
  pure (va == vb)

end PackageRegistry.Package
