/-!
# JSON values

A JSON document as it is exchanged with clients and with the VCS registry: objects keep the
order of their members, and numbers stay integers (of any size) or doubles as they were
written, since an integer and a double of the same value print differently.
-/

namespace PackageRegistry

/-- A JSON value; an object is the list of its members in order. -/
inductive Json where
  | null
  | bool (b : Bool)
  | int (n : Int)
  | float (x : Float)
  | str (s : String)
  | arr (items : List Json)
  | obj (members : List (String × Json))
  deriving Repr, Inhabited

namespace Json

/-- The member of an object with a key (the first one); `none` for a non-object. -/
def member? (j : Json) (key : String) : Option Json :=
  match j with
  | .obj members => members.lookup key
  | _ => none

/-- A text value, or `none`. -/
def str? : Json → Option String
  | .str s => some s
  | _ => none

/-- A boolean value, or `none`. -/
def bool? : Json → Option Bool
  | .bool b => some b
  | _ => none

/-- An integer value, or `none`. -/
def int? : Json → Option Int
  | .int n => some n
  | _ => none

/-- The value of an optional text: absent for a missing member or `null`. -/
def optStr? (j : Option Json) : Option String :=
  j.bind str?

/-- Text or `null`. -/
def ofOption : Option String → Json
  | some s => .str s
  | none => .null

end Json

end PackageRegistry
