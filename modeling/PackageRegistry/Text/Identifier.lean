import PackageRegistry.Text.CodeRange
import PackageRegistry.Text.PropertyTables
/-!
# Identifiers

A name is an identifier when its first character has `XID_Start` (or is `_`) and every other
`XID_Continue` (Unicode 14). Names are compared as written, without normalization.
-/

namespace PackageRegistry.Text

/-- The runs of characters that may start an identifier. -/
def identifierStartTable : Array CodeRun :=
  CodeRun.tableOfText PropertyTable.identifierStart.text

/-- The runs of characters that may continue an identifier. -/
def identifierPartTable : Array CodeRun :=
  CodeRun.tableOfText PropertyTable.identifierPart.text

/-- Whether a code point may start an identifier. -/
def isIdentifierStart (n : Nat) : Bool :=
  CodeRun.tableContains identifierStartTable n

/-- Whether a code point may continue an identifier. -/
def isIdentifierPart (n : Nat) : Bool :=
  CodeRun.tableContains identifierPartTable n

/-- Whether code points form an identifier: not empty, a start, then parts. -/
def isIdentifier : List Nat → Bool
  | [] => false
  | c :: rest => isIdentifierStart c && rest.all isIdentifierPart

end PackageRegistry.Text
