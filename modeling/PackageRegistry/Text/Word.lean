import PackageRegistry.Text.CodeRange
import PackageRegistry.Text.PropertyTables
/-!
# Word characters

The characters making up words in patterns over text: the underscore and every character of
general category `L` or with a numeric value (Unicode 14).
-/

namespace PackageRegistry.Text

/-- The runs of word characters. -/
def wordTable : Array CodeRun :=
  CodeRun.tableOfText PropertyTable.word.text

/-- Whether a character is a word character. -/
def isWordChar (c : Char) : Bool :=
  -- below `0x80` these are the letters, digits and `_`, so the table is not searched there
  if c.toNat < 0x80 then c.isAlphanum || c == '_' else CodeRun.tableContains wordTable c.toNat

/-- Whether a character is a letter or a number of any script: a word character other than the
underscore. -/
def isAlphanumeric (c : Char) : Bool := isWordChar c && c != '_'

end PackageRegistry.Text
