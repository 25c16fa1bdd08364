import PackageRegistry.Text.Quoted
/-!
# Search configuration and clause errors

The ways building a search filter fails, each with its text (`SearchError.message`).
-/

namespace PackageRegistry.Search

open PackageRegistry.Text

/-- A failure while configuring a searchable entity or assembling its filter. -/
inductive SearchError where
  /-- A column name that is not a plain, optionally table-qualified, identifier. -/
  | invalidIdentifier (column : String)
  /-- A column mapping whose two name lists differ in length. -/
  | misaligned (publicCount internalCount : Nat)
  /-- A column mapping that names a public field twice. -/
  | duplicatePublicNames (names : List String)
  /-- A public field name that is empty or not in trimmed lowercase. -/
  | publicNameNotLowercase (name : String)
  /-- A clause whose fragment has a different number of placeholders than parameters. -/
  | clauseMismatch (fragment : String) (placeholders params : Nat)
  /-- A fragment whose placeholders cannot all be bound to the parameters. -/
  | bindMismatch (placeholders params : Nat)
  /-- An entity that declares the reserved `in` qualifier. -/
  | reservedQualifier (entity : String)
  /-- An entity whose default sort key is not among its sort keys. -/
  | defaultSortNotSortable (entity key : String)
  /-- An entity whose page-size ceiling is not positive. -/
  | pageSizeNotPositive (entity : String)
  /-- A qualifier kind that is none of `relational`, `multi_word` and `exact`. -/
  | unknownFilterKind (kind : String)
  /-- A name that a column mapping or the entity registry does not know. -/
  | unknownName (name : String)
  deriving Repr, BEq

/-- The text of a search error. -/
def SearchError.message : SearchError → String
  | .invalidIdentifier column => "Not a valid column identifier: " ++ quoted column
  | .misaligned p i =>
    "Column mapping is misaligned: " ++ toString p ++ " public names, " ++ toString i ++
      " internal names"
  | .duplicatePublicNames names => "Duplicate public column names: " ++ quotedTuple names
  | .publicNameNotLowercase name => "Public column names must be lowercase: " ++ quoted name
  | .clauseMismatch fragment p n =>
    "Clause has " ++ toString p ++ " placeholders but " ++ toString n ++ " parameters: " ++
      quoted fragment
  | .bindMismatch p n => toString p ++ " placeholders but " ++ toString n ++ " parameters"
  | .reservedQualifier entity => entity ++ ": 'in' is a reserved qualifier"
  | .defaultSortNotSortable entity key =>
    entity ++ ": default sort key '" ++ key ++ "' is not sortable"
  | .pageSizeNotPositive entity => entity ++ ": max page size must be positive"
  | .unknownFilterKind kind => quoted kind ++ " is not a valid FilterKind"
  | .unknownName name => quoted name

/-- A search error's class: placeholder mismatch or unknown filter kind a value error, unknown
name a key error, else mapping. -/
def SearchError.errorClass : SearchError → String
  | .clauseMismatch .. | .bindMismatch .. | .unknownFilterKind _ => "ValueError"
  | .unknownName _ => "KeyError"
  | _ => "ColumnMappingError"

end PackageRegistry.Search
