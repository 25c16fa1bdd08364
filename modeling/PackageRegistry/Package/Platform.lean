import PackageRegistry.Text.Blank
/-!
# Platforms

A package's `os` field lists platforms as `name` or `name:arch`, separated by commas, blanks
around commas and colons insignificant. Empty entries are skipped.
-/

namespace PackageRegistry.Package

open PackageRegistry.Text

/-- Splits characters at a separator and trims every piece. -/
def splitTrimmed (sep : Char) (cs : List Char) : List (List Char) :=
  (cs.splitOn sep).map trimBlanks

/-- The platform an entry names: `name` or `name:arch`. -/
def platformOf (entry : List Char) : String :=
  match splitTrimmed ':' entry with
  | name :: arch :: _ =>
    if arch.isEmpty then String.ofList name else String.ofList name ++ ":" ++ String.ofList arch
  | [name] => String.ofList name
  | [] => ""

/-- The platforms an `os` field lists, in order. -/
def platforms (value : String) : List String :=
  let cs := trimBlanks value.toList
  if cs.isEmpty then []
  else ((splitTrimmed ',' cs).filter (!·.isEmpty)).map platformOf

end PackageRegistry.Package
