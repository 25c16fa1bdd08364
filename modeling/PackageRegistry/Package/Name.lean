import PackageRegistry.Package.Invalid
import PackageRegistry.Text.Blank
import PackageRegistry.Text.CaseMap
import PackageRegistry.Text.Utf8
/-!
# Package names

A package name is 1 to 213 characters, unchanged by lowercasing, of characters a URL path keeps,
without reserved characters; the first failing rule is reported.
-/

namespace PackageRegistry.Package

open PackageRegistry.Text

def nameLengthLimit : Nat := 214

/-- The characters a URL path keeps unescaped in a name: ASCII letters and digits and
`_ . - ~ $ & + : = @`. -/
def isUrlSafe (c : Char) : Bool :=
  (c.isAlphanum && c.toNat < 0x80) || "_.-~$&+:=@".toList.contains c

/-- The reserved characters and the blanks. -/
def isReservedChar (c : Char) : Bool :=
  "@.~\\/!'()*".toList.contains c || isBlank c

/-- Checks a package name, reporting the first rule it breaks. The URL-safety rule encodes the
name as UTF-8 first, failing on a surrogate stand-in. -/
def validateName (name : String) : Except (Utf8EncodeError ⊕ ValidationError) Unit :=
  if name.length = 0 ∨ name.length ≥ nameLengthLimit then .error (.inr (.name .length))
  else if toLower name ≠ name then .error (.inr (.name .notLowercase))
  else match encodeUtf8 name with
    | .error e => .error (.inl e)
    | .ok _ =>
      if !name.toList.all isUrlSafe then .error (.inr (.name .notUrlSafe))
      else if name.toList.any isReservedChar then .error (.inr (.name .specialCharacter))
      else .ok ()

end PackageRegistry.Package
