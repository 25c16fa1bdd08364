/-!
# TOML values

A document reads to a table of texts, integers, floats, booleans, dates and times, arrays and
tables, each kind with the runtime type name messages use (`str`, `int`, …).
-/

namespace PackageRegistry.Toml

/-- A calendar date. -/
structure CalendarDate where
  year : Nat
  month : Nat
  day : Nat
  deriving Repr, BEq, DecidableEq

/-- A time of day with microseconds. -/
structure ClockTime where
  hour : Nat
  minute : Nat
  second : Nat
  micro : Nat
  deriving Repr, BEq, DecidableEq

/-- The offset of a date-time from UTC: `Z`, or a signed shift in hours and minutes. -/
inductive UtcOffset where
  | utc
  | shift (negative : Bool) (hours minutes : Nat)
  deriving Repr, BEq, DecidableEq

/-- A TOML value. -/
inductive TomlValue where
  | string (s : String)
  | integer (n : Int)
  | float (x : Float)
  | boolean (b : Bool)
  | dateTime (date : CalendarDate) (time : ClockTime) (offset : Option UtcOffset)
  | date (date : CalendarDate)
  | time (time : ClockTime)
  | array (items : List TomlValue)
  | table (members : List (String × TomlValue))
  deriving Repr, Inhabited

/-- The members of a table, in the order they were defined. -/
abbrev TomlTable := List (String × TomlValue)

namespace TomlValue

def typeName : TomlValue → String
  | .string _ => "str"
  | .integer _ => "int"
  | .float _ => "float"
  | .boolean _ => "bool"
  | .dateTime .. => "datetime.datetime"
  | .date _ => "datetime.date"
  | .time _ => "datetime.time"
  | .array _ => "list"
  | .table _ => "dict"

/-- Whether a value is an array or a table, the two kinds that close their namespace. -/
def isContainer : TomlValue → Bool
  | .array _ | .table _ => true
  | _ => false

end TomlValue

end PackageRegistry.Toml
