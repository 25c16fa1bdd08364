import Mathlib
import PackageRegistry.Search.Query
/-!
# Reading qualifiers back

A query keeps its qualifiers as an ordered map, read only by key (`SearchQuery.get`). A query
read from tokens gives a key its last token's value and its term the words in order; a default
fills exactly a missing or blank key.
-/

namespace PackageRegistry.Search

open PackageRegistry.Text

/-! ## Binding a key -/

section Binding

variable {β : Type}

/-- Rebinding a key present among the entries gives it the new value. -/
theorem lookup_map_rebind_self (key : String) (value : β) :
    ∀ {entries : List (String × β)}, entries.any (·.1 == key) = true →
      (entries.map fun kv => if kv.1 == key then (key, value) else kv).lookup key = some value
  | (k, v) :: es, h => by
    by_cases hk : k = key
    · subst hk
      simp
    · have hbeq : (key == k) = false := beq_eq_false_iff_ne.mpr (Ne.symm hk)
      have htail : es.any (·.1 == key) = true := by simpa [hk] using h
      simpa [hk, List.lookup_cons, hbeq] using lookup_map_rebind_self key value htail

/-- Rebinding a key leaves every other key's value. -/
theorem lookup_map_rebind_of_ne {key k : String} (value : β) (h : k ≠ key) :
    ∀ entries : List (String × β),
      (entries.map fun kv => if kv.1 == key then (key, value) else kv).lookup k = entries.lookup k
  | [] => rfl
  | (a, b) :: es => by
    have ih := lookup_map_rebind_of_ne value h es
    -- a rebound entry carries `key`, which `k` skips as the original entry did
    by_cases ha : a = key
    · subst ha
      have hkey : (k == a) = false := beq_eq_false_iff_ne.mpr h
      simp only [List.map_cons, beq_self_eq_true, if_true, List.lookup_cons, hkey]
      exact ih
    · have hkeep : (a == key) = false := beq_eq_false_iff_ne.mpr ha
      simp only [List.map_cons, hkeep, Bool.false_eq_true, if_false, List.lookup_cons]
      split
      · rfl
      · exact ih

/-- Setting a key gives it the value set. -/
@[simp] theorem lookup_setEntry_self (entries : List (String × β)) (key : String) (value : β) :
    (setEntry entries key value).lookup key = some value := by
  unfold setEntry
  split
  · next h => exact lookup_map_rebind_self key value h
  · next h =>
    have hnone : entries.lookup key = none := by
      rw [List.lookup_eq_none_iff]
      intro p hp
      have hne : p.1 ≠ key := fun hk => h (List.any_eq_true.mpr ⟨p, hp, by simp [hk]⟩)
      rw [bne_iff_ne]
      exact Ne.symm hne
    simp [List.lookup_append, hnone]

/-- Setting a key leaves every other key's value. -/
theorem lookup_setEntry_of_ne (entries : List (String × β)) {key k : String} (value : β)
    (h : k ≠ key) : (setEntry entries key value).lookup k = entries.lookup k := by
  unfold setEntry
  split
  · exact lookup_map_rebind_of_ne value h entries
  · have hbeq : (k == key) = false := beq_eq_false_iff_ne.mpr h
    simp only [List.lookup_append, List.lookup_cons, hbeq, List.lookup_nil, Option.or_none]

end Binding

/-! ## Queries read from tokens -/

namespace Token

/-- The text of a word token. -/
def word? : Token → Option String
  | .word w => some w
  | .qualifier _ _ => none

/-- The key of a qualifier token. -/
def key? : Token → Option String
  | .word _ => none
  | .qualifier k _ => some k

/-- The value a token gives a key: its value when it is a qualifier with that key. -/
def valueFor? (key : String) : Token → Option String
  | .word _ => none
  | .qualifier k v => if k = key then some v else none

end Token

/-- The query of some tokens has their words, in order, as its term. -/
theorem term_ofTokens (tokens : List Token) :
    (SearchQuery.ofTokens tokens).term = " ".intercalate (tokens.filterMap Token.word?) := by
  simp only [SearchQuery.ofTokens]
  congr 2

/-- The step that reads one token into the qualifiers. -/
def qualifierStep (entries : List (String × String)) : Token → List (String × String)
  | .qualifier k v => setEntry entries k v
  | .word _ => entries

/-- A key's value after folding tokens in is its last token's value, or its value before. -/
theorem lookup_foldl_qualifierStep (key : String) :
    ∀ (tokens : List Token) (entries : List (String × String)),
      (tokens.foldl qualifierStep entries).lookup key =
        (tokens.filterMap (Token.valueFor? key)).getLast?.or (entries.lookup key)
  | [], _ => by simp
  | .word _ :: ts, entries => by
    simp [qualifierStep, Token.valueFor?, lookup_foldl_qualifierStep key ts]
  | .qualifier k v :: ts, entries => by
    rw [List.foldl_cons, lookup_foldl_qualifierStep key ts]
    -- a later value for `key` wins; otherwise this token's, when it has the key
    by_cases hk : k = key
    · subst hk
      cases hlast : (ts.filterMap (Token.valueFor? k)).getLast? <;>
        simp [qualifierStep, Token.valueFor?, hlast, List.getLast?_cons]
    · simp [qualifierStep, Token.valueFor?, hk, lookup_setEntry_of_ne _ _ (Ne.symm hk)]

/-- A query read from tokens gives a key its last qualifier token's value, or the empty text. -/
theorem get_ofTokens (tokens : List Token) (key : String) :
    (SearchQuery.ofTokens tokens).get key =
      ((tokens.filterMap (Token.valueFor? key)).getLast?).getD "" := by
  have hstep : (SearchQuery.ofTokens tokens).qualifiers = tokens.foldl qualifierStep [] := by
    simp only [SearchQuery.ofTokens]
    congr 1
  simp [SearchQuery.get, hstep, lookup_foldl_qualifierStep]

/-- The term reads only the words. -/
theorem term_ofTokens_filter (tokens : List Token) :
    (SearchQuery.ofTokens (tokens.filter (·.key? == none))).term =
      (SearchQuery.ofTokens tokens).term := by
  rw [term_ofTokens, term_ofTokens, List.filterMap_filter]
  congr 2
  funext t
  cases t <;> simp [Token.word?, Token.key?]

/-- A key's value reads only the qualifier tokens with that key. -/
theorem get_ofTokens_filter (tokens : List Token) (key : String) :
    (SearchQuery.ofTokens (tokens.filter (·.key? == some key))).get key =
      (SearchQuery.ofTokens tokens).get key := by
  rw [get_ofTokens, get_ofTokens, List.filterMap_filter]
  congr 3
  funext t
  cases t with
  | word w => simp [Token.valueFor?, Token.key?]
  | qualifier k v =>
    by_cases hk : k = key
    · simp [Token.valueFor?, Token.key?, hk]
    · simp [Token.valueFor?, Token.key?, hk]

/-! ## Defaults -/

/-- Defaults leave a query's words. -/
@[simp] theorem term_withDefaults (q : SearchQuery) (defaults : List (String × String)) :
    (q.withDefaults defaults).term = q.term := rfl

/-- A default gives its key the default value when the key is missing or blank, and keeps the
key's value otherwise. -/
theorem get_withDefaults_self (q : SearchQuery) (key value : String) :
    (q.withDefaults [(key, value)]).get key =
      if isBlankText (q.get key) then value else q.get key := by
  simp only [SearchQuery.withDefaults, List.foldl_cons, List.foldl_nil]
  by_cases hb : isBlankText (q.get key) = true
  · have hb' : isBlankText ((q.qualifiers.lookup key).getD "") = true := hb
    simp [SearchQuery.get, hb']
  · have hb' : isBlankText ((q.qualifiers.lookup key).getD "") = false := Bool.eq_false_iff.mpr hb
    simp [SearchQuery.get, hb']

/-- A default for one key leaves every other key's value. -/
theorem get_withDefaults_of_ne (q : SearchQuery) {key k : String} (value : String)
    (h : k ≠ key) : (q.withDefaults [(key, value)]).get k = q.get k := by
  simp only [SearchQuery.withDefaults, List.foldl_cons, List.foldl_nil]
  split
  · simp [SearchQuery.get, lookup_setEntry_of_ne _ _ h]
  · rfl

end PackageRegistry.Search
