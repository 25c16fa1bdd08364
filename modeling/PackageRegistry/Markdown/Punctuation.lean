import PackageRegistry.Text.CodeRange
import PackageRegistry.Text.PropertyTables
/-!
# Punctuation and symbols

Whether a run of emphasis marks opens or closes emphasis depends on whether the characters
around it are punctuation. Any character of a punctuation (`P`) or symbol (`S`) general
category counts (Unicode 14).
-/

namespace PackageRegistry.Markdown

open PackageRegistry.Text

/-- The runs of code points whose general category is punctuation or a symbol. -/
def punctuationTable : Array CodeRun :=
  CodeRun.tableOfText PropertyTable.punctuation.text

def isPunctuationOrSymbol (c : Char) : Bool :=
  CodeRun.tableContains punctuationTable c.toNat

end PackageRegistry.Markdown
