import PackageRegistry.Text.Percent
import PackageRegistry.Text.FloatText
import PackageRegistry.Text.CaseMap
/-!
# The query of a database URL

Split at `&` into fields, each at its first `=`, `+` a space and escapes decoded. Options keep
their first names' order with all values, read as flags, numbers or texts.
-/

namespace PackageRegistry.Store

open PackageRegistry.Text

/-- The value of a query option: one value, or the values of a name given more than once. -/
inductive OptionValue where
  | one (value : String)
  | many (values : List String)
  deriving Repr, BEq

/-- The text of an option: its value, or its values as a list of quoted texts. -/
def OptionValue.text : OptionValue → String
  | .one value => value
  | .many values => "[" ++ ", ".intercalate (values.map quoted) ++ "]"

/-- The value with one more given after it. -/
def OptionValue.add (v : OptionValue) (more : String) : OptionValue :=
  match v with
  | .one value => .many [value, more]
  | .many values => .many (values ++ [more])

/-- A part of a field with `+` read as a space and escapes decoded. -/
def decodeField (cs : List Char) : String :=
  percentDecode (String.ofList (cs.map fun c => if c == '+' then ' ' else c))

/-- The names and values of the fields of a query, in order. -/
def queryFields (query : String) : List (String × String) :=
  (query.splitOn "&").filterMap fun field =>
    let cs := field.toList
    let name := cs.takeWhile (· != '=')
    match cs.drop name.length with
    | '=' :: value => if value.isEmpty then none else some (decodeField name, decodeField value)
    | _ => none

/-- Options with one more field given. -/
def addOption (options : List (String × OptionValue)) (field : String × String) :
    List (String × OptionValue) :=
  let (name, value) := field
  if options.any (·.1 == name) then
    options.map fun (n, v) => if n == name then (n, v.add value) else (n, v)
  else options ++ [(name, .one value)]

/-- The options of a query, in the order their names first appear. -/
def queryOptions (query : String) : List (String × OptionValue) :=
  (queryFields query).foldl addOption []

/-- Why an option cannot be read: the class of the error and its text. -/
structure OptionError where
  errorClass : String
  text : String
  deriving Repr, BEq

/-- Reads a yes-or-no option. -/
def OptionValue.asFlag : OptionValue → Except OptionError Bool
  | .many _ => .ok true
  | .one value =>
    let word := toLower (String.ofList (trimBlanks value.toList))
    if ["true", "yes", "on", "y", "t", "1"].contains word then .ok true
    else if ["false", "no", "off", "n", "f", "0"].contains word then .ok false
    else .error ⟨"ValueError", "String is not true/false: " ++ quoted word⟩

def OptionValue.checkFloat : OptionValue → Except OptionError Unit
  | .many _ =>
    .error ⟨"TypeError", "float() argument must be a string or a real number, not 'list'"⟩
  | .one value =>
    if isFloatText value then .ok ()
    else .error ⟨"ValueError", "could not convert string to float: " ++ quoted value⟩

def OptionValue.asInteger : OptionValue → Except OptionError Int
  | .many _ =>
    .error ⟨"TypeError",
      "int() argument must be a string, a bytes-like object or a real number, not 'list'"⟩
  | .one value =>
    match readInteger value with
    | .ok n => .ok n
    | .error e => .error ⟨"ValueError", e.message⟩

end PackageRegistry.Store
