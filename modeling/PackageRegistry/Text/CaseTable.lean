import PackageRegistry.Text.CodeRange
import PackageRegistry.Text.PropertyTables
/-!
# Case tables

The Unicode 14 full case mappings, packed as runs `lo:count:step:delta` and single entries mapping
one code point to several; and the final-sigma rule's two sets.
-/

namespace PackageRegistry.Text

/-- Lowercase mapping, runs of single code points. -/
def lowerRunsText : String :=
  PropertyTable.lowerRuns.text

/-- Lowercase mapping, code points with a longer image. -/
def lowerLongText : String :=
  "130=69 307"

/-- Uppercase mapping, runs of single code points. -/
def upperRunsText : String :=
  PropertyTable.upperRuns.text

/-- Uppercase mapping, code points with a longer image. -/
def upperLongText : String :=
  PropertyTable.upperLong.text

/-- Case folding, runs of single code points. -/
def foldRunsText : String :=
  PropertyTable.foldRuns.text

/-- Case folding, code points with a longer image. -/
def foldLongText : String :=
  PropertyTable.foldLong.text

/-- The case-ignorable characters. -/
def caseIgnorableTable : Array CodeRun :=
  CodeRun.tableOfText PropertyTable.caseIgnorable.text

/-- The cased characters that are not case-ignorable. -/
def casedTable : Array CodeRun :=
  CodeRun.tableOfText PropertyTable.cased.text

end PackageRegistry.Text
