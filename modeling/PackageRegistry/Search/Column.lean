import PackageRegistry.Search.Error
import PackageRegistry.Text.Blank
import PackageRegistry.Text.CaseMap
/-!
# Columns

Column names are the one thing a filter writes into query text, so each must be an identifier,
optionally dotted. A column mapping pairs public field names with the columns they stand for.
-/

namespace PackageRegistry.Search

open PackageRegistry.Text

/-- Whether a character may start an identifier: an ASCII letter or an underscore. -/
def isNameStart (c : Char) : Bool := c.isAlpha || c = '_'

/-- Whether a character may continue an identifier: an ASCII letter, digit or underscore. -/
def isNameChar (c : Char) : Bool := c.isAlphanum || c = '_'

def isPlainName : List Char → Bool
  | [] => false
  | c :: cs => isNameStart c && cs.all isNameChar

/-- Characters without one line feed at the very end. -/
def dropFinalNewline (cs : List Char) : List Char :=
  match cs.reverse with
  | '\n' :: body => body.reverse
  | _ => cs

/-- Whether characters form a name, or two names joined by a dot. -/
def isQualifiedName (cs : List Char) : Bool :=
  match cs.splitOn '.' with
  | [a] => isPlainName a
  | [a, b] => isPlainName a && isPlainName b
  | _ => false

/-- Whether text is a column identifier. -/
def isIdentifier (s : String) : Bool :=
  isQualifiedName (dropFinalNewline s.toList)

/-- The column itself when it is an identifier. -/
def checkIdentifier (column : String) : Except SearchError String :=
  if isIdentifier column then .ok column else .error (.invalidIdentifier column)

/-- Public field names paired with the columns they stand for, in order. -/
structure ColumnMapping where
  entries : List (String × String)
  deriving Repr, BEq, DecidableEq, Inhabited

namespace ColumnMapping

/-- The public names, in order. -/
def names (m : ColumnMapping) : List String := m.entries.map (·.1)

def columns (m : ColumnMapping) : List String := m.entries.map (·.2)

/-- The number of fields. -/
def size (m : ColumnMapping) : Nat := m.entries.length

/-- Whether a public name belongs to the mapping. -/
def contains (m : ColumnMapping) (name : String) : Bool := m.names.contains name

/-- The column of a public name. -/
def column? (m : ColumnMapping) (name : String) : Option String := m.entries.lookup name

/-- Whether a public name is non-empty and equal to its trimmed lowercase. -/
def isPublicName (name : String) : Bool :=
  !name.isEmpty && name == toLower (trim name)

/-- Checks names and columns in order: equal counts, no repeated name, names trimmed lowercase,
columns identifiers. -/
def ofLists (names columns : List String) : Except SearchError ColumnMapping := do
  if names.length ≠ columns.length then
    throw (.misaligned names.length columns.length)
  if names.eraseDups.length ≠ names.length then
    throw (.duplicatePublicNames names)
  match names.find? (!isPublicName ·) with
  | some bad => throw (.publicNameNotLowercase bad)
  | none => pure ()
  match columns.find? (!isIdentifier ·) with
  | some bad => throw (.invalidIdentifier bad)
  | none => pure ⟨names.zip columns⟩

/-- A mapping from its pairs, checked as `ofLists` checks it. -/
def ofPairs (pairs : List (String × String)) : Except SearchError ColumnMapping :=
  ofLists (pairs.map (·.1)) (pairs.map (·.2))

/-- The column of a public name, refusing a name the mapping does not have. -/
def columnFor (m : ColumnMapping) (name : String) : Except SearchError String :=
  match m.column? name with
  | some c => .ok c
  | none => .error (.unknownName name)

end ColumnMapping

end PackageRegistry.Search
