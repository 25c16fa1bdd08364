import PackageRegistry.Text.Blank
/-!
# Query text

Tokens separated by blanks: a token whose first colon is neither its first nor last character is
a qualifier `key:value`, others are words forming the free-text term. Qualifiers form an ordered
map, a key keeping its first place and last value.
-/

namespace PackageRegistry.Search

open PackageRegistry.Text

/-- A token of query text. -/
inductive Token where
  /-- A word of the free-text term. -/
  | word (text : String)
  /-- A `key:value` qualifier. -/
  | qualifier (key value : String)
  deriving Repr, BEq, DecidableEq

/-- A token: a qualifier when its first colon has characters on both sides, else a word. -/
def Token.ofChars (cs : List Char) : Token :=
  match cs.span (· ≠ ':') with
  | (k :: ks, ':' :: v :: vs) => .qualifier (String.ofList (k :: ks)) (String.ofList (v :: vs))
  | _ => .word (String.ofList cs)

/-- The tokens of query text, in order. -/
def tokensOf (s : String) : List Token :=
  (wordsOf s.toList).map Token.ofChars

/-- A tokenized query: the free-text term and the qualifiers in order of first occurrence. -/
structure SearchQuery where
  term : String := ""
  qualifiers : List (String × String) := []
  deriving Repr, BEq, DecidableEq, Inhabited

/-- Binds a key in an ordered map: a present key keeps its place, a new key goes last. -/
def setEntry {β : Type} (entries : List (String × β)) (key : String) (value : β) :
    List (String × β) :=
  if entries.any (·.1 == key) then
    entries.map fun kv => if kv.1 == key then (key, value) else kv
  else entries ++ [(key, value)]

def SearchQuery.ofTokens (tokens : List Token) : SearchQuery where
  term := " ".intercalate (tokens.filterMap fun | .word w => some w | .qualifier _ _ => none)
  qualifiers := tokens.foldl
    (fun entries t => match t with
      | .qualifier k v => setEntry entries k v
      | .word _ => entries) []

/-- Reads query text. -/
def SearchQuery.parse (s : String) : SearchQuery :=
  SearchQuery.ofTokens (tokensOf s)

/-- The value of a qualifier, or the empty text when the query does not have it. -/
def SearchQuery.get (q : SearchQuery) (key : String) : String :=
  (q.qualifiers.lookup key).getD ""

/-- Fills missing or blank qualifiers from defaults in order: present keys keep their place,
new keys go last. -/
def SearchQuery.withDefaults (q : SearchQuery) (defaults : List (String × String)) :
    SearchQuery :=
  { q with
    qualifiers := defaults.foldl
      (fun entries kv =>
        if isBlankText ((entries.lookup kv.1).getD "") then setEntry entries kv.1 kv.2
        else entries)
      q.qualifiers }

/-- Text reading back as this query: the term, then `key:value` per qualifier, space-joined. -/
def SearchQuery.toText (q : SearchQuery) : String :=
  let parts := q.qualifiers.map fun kv => kv.1 ++ ":" ++ kv.2
  " ".intercalate (if q.term.isEmpty then parts else q.term :: parts)

/-- A qualifier value with each `+` read as a space. -/
def decodeValue (s : String) : String :=
  String.ofList (s.toList.map fun c => if c = '+' then ' ' else c)

end PackageRegistry.Search
