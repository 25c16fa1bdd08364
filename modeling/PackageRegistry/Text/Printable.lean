import PackageRegistry.Text.CodeRange
import PackageRegistry.Text.PropertyTables
/-!
# Printable characters

The characters a quoted literal shows as they are: every assigned character but controls, format
characters, surrogates, private-use characters and spaces other than ASCII space (Unicode 14).
-/

namespace PackageRegistry.Text

/-- The runs of printable code points. -/
def printableTable : Array CodeRun :=
  CodeRun.tableOfText PropertyTable.printable.text

/-- Whether a character is shown as it is in a quoted literal. -/
def isPrintable (c : Char) : Bool :=
  CodeRun.tableContains printableTable c.toNat

end PackageRegistry.Text
