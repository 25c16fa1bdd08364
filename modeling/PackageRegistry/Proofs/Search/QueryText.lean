import Mathlib
import PackageRegistry.Proofs.Search.Bound
/-!
# The grammar of query text

A text's tokens are its pieces between blanks, a qualifier when its first colon stands inside.
So reading text gives the query the grammar describes (`SearchQuery.parse_eq_described`), and a
read query is read back from its written text (`SearchQuery.parse_toText_parse`).
-/

namespace PackageRegistry.Text

/-! ## Pieces between blanks -/

/-- The pieces of characters between blanks, empty pieces dropped. -/
def piecesBetweenBlanks (cs : List Char) : List (List Char) :=
  (cs.splitOnP isBlank).filter fun w => !w.isEmpty

/-- No text has no pieces. -/
@[simp] theorem piecesBetweenBlanks_nil : piecesBetweenBlanks [] = [] := by
  simp [piecesBetweenBlanks, List.splitOnP_nil]

/-- A blank ends the pieces before it and starts those after it. -/
theorem piecesBetweenBlanks_append_cons {c : Char} (hc : isBlank c = true) (xs ys : List Char) :
    piecesBetweenBlanks (xs ++ c :: ys) = piecesBetweenBlanks xs ++ piecesBetweenBlanks ys := by
  simp only [piecesBetweenBlanks, List.splitOnP_append_cons xs ys hc, List.filter_append]

/-- A leading blank adds no piece. -/
theorem piecesBetweenBlanks_cons_blank {c : Char} (hc : isBlank c = true) (ys : List Char) :
    piecesBetweenBlanks (c :: ys) = piecesBetweenBlanks ys := by
  simpa using piecesBetweenBlanks_append_cons hc [] ys

/-- Characters with no blank among them are one piece. -/
theorem piecesBetweenBlanks_of_forall {w : List Char} (hne : w ≠ [])
    (h : ∀ c ∈ w, isBlank c = false) : piecesBetweenBlanks w = [w] := by
  simp [piecesBetweenBlanks, List.splitOnP_eq_singleton h, hne]

/-- Leading blanks add no piece. -/
theorem piecesBetweenBlanks_dropBlanks (cs : List Char) :
    piecesBetweenBlanks (dropBlanks cs) = piecesBetweenBlanks cs := by
  induction cs with
  | nil => rfl
  | cons c cs ih =>
    by_cases hc : isBlank c = true
    · rw [dropBlanks, List.dropWhile_cons_of_pos hc, piecesBetweenBlanks_cons_blank hc]
      exact ih
    · rw [dropBlanks, List.dropWhile_cons_of_neg hc]

/-- Text left after dropping blanks starts with no blank. -/
theorem isBlank_of_dropBlanks_eq_cons {cs rest : List Char} {c : Char}
    (h : dropBlanks cs = c :: rest) : isBlank c = false := by
  have h' : cs.dropWhile isBlank = c :: rest := h
  have := List.head_dropWhile_not isBlank (show cs.dropWhile isBlank ≠ [] by rw [h']; simp)
  simpa only [h', List.head_cons] using this

/-- What follows a word starts with a blank. -/
theorem isBlank_of_spanWord_eq_cons {rest more : List Char} {d : Char}
    (h : (spanWord rest).2 = d :: more) : isBlank d = true := by
  have h' : rest.dropWhile (fun c => !isBlank c) = d :: more := h
  have := List.head_dropWhile_not (fun c => !isBlank c)
    (show rest.dropWhile (fun c => !isBlank c) ≠ [] by rw [h']; simp)
  simpa only [h', List.head_cons, Bool.not_eq_false'] using this

/-- From a non-blank character, the first piece runs up to the next blank. -/
theorem piecesBetweenBlanks_cons_spanWord {c : Char} (hc : isBlank c = false) (rest : List Char) :
    piecesBetweenBlanks (c :: rest) =
      (c :: (spanWord rest).1) :: piecesBetweenBlanks (spanWord rest).2 := by
  have hrun : ∀ d ∈ c :: (spanWord rest).1, isBlank d = false := by
    intro d hd
    rcases List.mem_cons.mp hd with rfl | hd
    · exact hc
    · simpa using List.mem_takeWhile_imp hd
  have hsplit : c :: rest = (c :: (spanWord rest).1) ++ (spanWord rest).2 := by
    simp [spanWord, List.takeWhile_append_dropWhile]
  rw [hsplit]
  cases hrest : (spanWord rest).2 with
  | nil => simp [piecesBetweenBlanks_of_forall (List.cons_ne_nil _ _) hrun]
  | cons d more =>
    have hd := isBlank_of_spanWord_eq_cons hrest
    rw [piecesBetweenBlanks_append_cons hd, piecesBetweenBlanks_cons_blank hd,
      piecesBetweenBlanks_of_forall (List.cons_ne_nil _ _) hrun, List.singleton_append]

/-- The word splitter gives the pieces between blanks: the maximal runs of non-blank
characters. -/
theorem wordsOf_eq_piecesBetweenBlanks (cs : List Char) :
    wordsOf cs = piecesBetweenBlanks cs := by
  -- the splitter's own recursion: skip blanks, then take one run
  induction cs using wordsOf.induct with
  | case1 cs h =>
    rw [wordsOf, ← piecesBetweenBlanks_dropBlanks cs]
    split
    · next hd => rw [hd]; rfl
    · next hd => rw [h] at hd; cases hd
  | case2 cs c rest h _ ih =>
    rw [wordsOf, ← piecesBetweenBlanks_dropBlanks cs]
    split
    · next hd => rw [h] at hd; cases hd
    · next c' rest' hd =>
      rw [h] at hd
      obtain ⟨rfl, rfl⟩ := List.cons.inj hd
      show (c :: (spanWord rest).1) :: wordsOf (spanWord rest).2 = _
      rw [h, ih, piecesBetweenBlanks_cons_spanWord (isBlank_of_dropBlanks_eq_cons h)]

/-- No piece of a split holds a character it was split at. -/
theorem forall_not_of_mem_splitOnP {α : Type} {p : α → Bool} :
    ∀ {l w : List α}, w ∈ l.splitOnP p → ∀ c ∈ w, p c = false
  | [], w, hw => by
    simp only [List.splitOnP_nil, List.mem_singleton] at hw
    subst hw
    simp
  | x :: xs, w, hw => by
    rw [List.splitOnP_cons_eq_if_modifyHead] at hw
    split at hw
    · rcases List.mem_cons.mp hw with rfl | hw
      · simp
      · exact forall_not_of_mem_splitOnP hw
    · next hx =>
      obtain ⟨r, rs, hr⟩ := List.exists_cons_of_ne_nil (List.splitOnP_ne_nil p xs)
      rw [hr, List.modifyHead_cons] at hw
      rcases List.mem_cons.mp hw with rfl | hw
      · intro c hc
        rcases List.mem_cons.mp hc with rfl | hc
        · simpa using hx
        · exact forall_not_of_mem_splitOnP (hr ▸ List.mem_cons_self) c hc
      · exact forall_not_of_mem_splitOnP (hr ▸ List.mem_cons_of_mem _ hw)

/-- Every piece between blanks is nonempty and holds no blank. -/
theorem mem_piecesBetweenBlanks {cs t : List Char} (h : t ∈ piecesBetweenBlanks cs) :
    t ≠ [] ∧ ∀ c ∈ t, isBlank c = false := by
  obtain ⟨ht, hne⟩ := List.mem_filter.mp h
  exact ⟨by simpa using hne, forall_not_of_mem_splitOnP ht⟩

/-- Non-empty runs without blanks, joined by spaces, are the pieces between blanks of the
joined text. -/
theorem piecesBetweenBlanks_intercalate :
    ∀ {ws : List (List Char)}, (∀ w ∈ ws, w ≠ [] ∧ ∀ c ∈ w, isBlank c = false) →
      piecesBetweenBlanks ([' '].intercalate ws) = ws
  | [], _ => rfl
  | [w], h => by
    have ⟨hne, hw⟩ := h w List.mem_cons_self
    simpa using piecesBetweenBlanks_of_forall hne hw
  | w :: w' :: ws, h => by
    have ⟨hne, hw⟩ := h w List.mem_cons_self
    rw [List.intercalate_cons_cons, List.append_assoc, List.singleton_append,
      piecesBetweenBlanks_append_cons (by decide), piecesBetweenBlanks_of_forall hne hw,
      piecesBetweenBlanks_intercalate fun x hx => h x (List.mem_cons_of_mem w hx),
      List.singleton_append]

end PackageRegistry.Text

namespace PackageRegistry.Search

open PackageRegistry.Text

/-! ## Tokens -/

/-- An item first found after a prefix without it is found at the prefix's length. -/
theorem idxOf?_append_cons {α : Type} [BEq α] [LawfulBEq α] {a : α} {pre : List α} (h : a ∉ pre)
    (post : List α) : (pre ++ a :: post).idxOf? a = some pre.length := by
  induction pre with
  | nil => simp [List.idxOf?_cons]
  | cons c pre ih =>
    have hc : c ≠ a := fun hc => h (hc ▸ List.mem_cons_self)
    simp [List.idxOf?_cons, hc, ih (fun hm => h (List.mem_cons_of_mem c hm))]

/-- A token by its first colon at `i`: a qualifier if `0 < i < length - 1`, key before, value
after; else a word. -/
def Token.byFirstColon (t : List Char) : Token :=
  match t.idxOf? ':' with
  | some i =>
    if 0 < i ∧ i + 1 < t.length then
      .qualifier (String.ofList (t.take i)) (String.ofList (t.drop (i + 1)))
    else .word (String.ofList t)
  | none => .word (String.ofList t)

/-- Splitting a token at the end of its run of non-colons finds its first colon. -/
theorem Token.ofChars_eq_byFirstColon (t : List Char) : Token.ofChars t = Token.byFirstColon t := by
  have hpre : ':' ∉ t.takeWhile (fun c => decide (c ≠ ':')) := fun hm => by
    simpa using List.mem_takeWhile_imp hm
  have ht : t = t.takeWhile (fun c => decide (c ≠ ':')) ++ t.dropWhile (fun c => decide (c ≠ ':')) :=
    List.takeWhile_append_dropWhile.symm
  rw [Token.ofChars, List.span_eq_takeWhile_dropWhile]
  generalize t.takeWhile (fun c => decide (c ≠ ':')) = pre at hpre ht
  generalize hpost : t.dropWhile (fun c => decide (c ≠ ':')) = post at ht
  cases post with
  | nil =>
    -- no colon: a word
    subst ht
    have hnone : (pre ++ []).idxOf? ':' = none := List.idxOf?_eq_none_iff.mpr (by simpa using hpre)
    rw [Token.byFirstColon, hnone]
    cases pre <;> rfl
  | cons d rest =>
    -- the run of non-colons stops at a colon
    have hd : d = ':' := by
      have := List.head_dropWhile_not (fun c => decide (c ≠ ':'))
        (show t.dropWhile (fun c => decide (c ≠ ':')) ≠ [] by rw [hpost]; simp)
      simp only [hpost, List.head_cons] at this
      simpa using this
    subst hd ht
    rw [Token.byFirstColon, idxOf?_append_cons hpre rest]
    cases pre with
    | nil => rfl
    | cons k ks =>
      cases rest with
      | nil => simp
      | cons v vs => simp

/-- A qualifier token splits at its first colon: a non-empty colon-free key, then a non-empty
value. -/
theorem Token.ofChars_eq_qualifier {t : List Char} {k v : String}
    (h : Token.ofChars t = .qualifier k v) :
    t = k.toList ++ ':' :: v.toList ∧ k.toList ≠ [] ∧ ':' ∉ k.toList ∧ v.toList ≠ [] := by
  unfold Token.ofChars at h
  split at h
  · next k' ks v' vs hspan =>
    cases h
    rw [List.span_eq_takeWhile_dropWhile, Prod.mk.injEq] at hspan
    obtain ⟨htake, hdrop⟩ := hspan
    refine ⟨?_, by simp, fun hk => ?_, by simp⟩
    · have ht : t = t.takeWhile (fun c => decide (c ≠ ':')) ++
          t.dropWhile (fun c => decide (c ≠ ':')) := List.takeWhile_append_dropWhile.symm
      rw [htake, hdrop] at ht
      simpa using ht
    · rw [String.toList_ofList, ← htake] at hk
      simpa using List.mem_takeWhile_imp hk
  · cases h

/-- A word token holds the text it was read from. -/
theorem Token.ofChars_eq_word {t : List Char} {w : String} (h : Token.ofChars t = .word w) :
    w = String.ofList t := by
  unfold Token.ofChars at h
  split at h
  · cases h
  · cases h
    rfl

/-! ## Qualifiers as an ordered map -/

section Repeats

variable {α : Type} [BEq α] [LawfulBEq α]

/-- Removing repeats leaves none. -/
theorem nodup_eraseDups (l : List α) : l.eraseDups.Nodup := by
  induction h : l.length using Nat.strong_induction_on generalizing l with
  | _ n ih =>
    match l with
    | [] => simp
    | a :: as =>
      rw [List.eraseDups_cons]
      have hlt : (as.filter fun b => !b == a).length < n := by
        have := List.length_filter_le (fun b => !b == a) as
        simp only [List.length_cons] at h
        omega
      refine List.nodup_cons.mpr ⟨fun ha => ?_, ih _ hlt _ rfl⟩
      simpa using List.mem_eraseDups.mp ha

/-- Removing repeats from a list without any changes nothing. -/
theorem eraseDups_of_nodup : ∀ {l : List α}, l.Nodup → l.eraseDups = l
  | [], _ => rfl
  | a :: as, h => by
    have ⟨ha, has⟩ := List.nodup_cons.mp h
    have hkeep : (as.filter fun b => !b == a) = as := by
      refine List.filter_eq_self.mpr fun b hb => ?_
      have hne : b ≠ a := by
        rintro rfl
        exact ha hb
      simpa using hne
    rw [List.eraseDups_cons, hkeep, eraseDups_of_nodup has]

end Repeats

section Lookup

variable {β : Type}

/-- A key not among the pairs' keys finds nothing. -/
theorem lookup_eq_none_of_not_mem {k : String} {l : List (String × β)} (h : k ∉ l.map (·.1)) :
    l.lookup k = none := by
  rw [List.lookup_eq_none_iff]
  intro p hp
  have hne : k ≠ p.1 := by
    rintro rfl
    exact h (List.mem_map_of_mem hp)
  simpa using hne

/-- A list of pairs with distinct keys is determined by its keys and by what each key looks up. -/
theorem eq_map_lookup_of_nodup (d : β) :
    ∀ {l : List (String × β)}, (l.map (·.1)).Nodup →
      l = (l.map (·.1)).map fun k => (k, (l.lookup k).getD d)
  | [], _ => rfl
  | (k, v) :: l, h => by
    simp only [List.map_cons, List.nodup_cons] at h
    obtain ⟨hk, hl⟩ := h
    have hhead : (((k, v) :: l).lookup k).getD d = v := by simp
    -- the other keys skip the first pair
    have hrest : ∀ k' ∈ l.map (·.1), (((k, v) :: l).lookup k').getD d = (l.lookup k').getD d := by
      intro k' hk'
      have hne : (k' == k) = false := beq_eq_false_iff_ne.mpr fun he => hk (he ▸ hk')
      simp [List.lookup_cons, hne]
    simp only [List.map_cons, hhead, List.cons.injEq, true_and]
    conv => lhs; rw [eq_map_lookup_of_nodup d hl]
    exact List.map_congr_left fun k' hk' => by rw [hrest k' hk']

/-- With distinct keys, looking up from the end finds what looking up from the front does. -/
theorem lookup_reverse_of_nodup (k : String) :
    ∀ {l : List (String × β)}, (l.map (·.1)).Nodup → l.reverse.lookup k = l.lookup k
  | [], _ => rfl
  | (k', v) :: l, h => by
    simp only [List.map_cons, List.nodup_cons] at h
    obtain ⟨hk, hl⟩ := h
    rw [List.reverse_cons, List.lookup_append, lookup_reverse_of_nodup k hl, List.lookup_cons]
    by_cases he : k = k'
    · subst he
      simp [lookup_eq_none_of_not_mem hk]
    · have hne : (k == k') = false := beq_eq_false_iff_ne.mpr he
      simp [List.lookup_cons, hne]

end Lookup

/-- The key and the value of a qualifier token. -/
def Token.pair? : Token → Option (String × String)
  | .word _ => none
  | .qualifier k v => some (k, v)

/-- The ordered map of key-value pairs: each key once, at its first place, with its last
value. -/
def orderedMap (pairs : List (String × String)) : List (String × String) :=
  (pairs.map (·.1)).eraseDups.map fun k => (k, (pairs.reverse.lookup k).getD "")

/-- An ordered map of pairs whose keys are already distinct is the pairs themselves. -/
theorem orderedMap_of_nodup {pairs : List (String × String)} (h : (pairs.map (·.1)).Nodup) :
    orderedMap pairs = pairs := by
  conv => rhs; rw [eq_map_lookup_of_nodup "" h]
  rw [orderedMap, eraseDups_of_nodup h]
  exact List.map_congr_left fun k _ => by rw [lookup_reverse_of_nodup k h]

/-- A query's qualifiers are its tokens folded into an ordered map, in order. -/
theorem qualifiers_ofTokens (tokens : List Token) :
    (SearchQuery.ofTokens tokens).qualifiers = tokens.foldl qualifierStep [] := by
  simp only [SearchQuery.ofTokens]
  congr 1

/-- Setting a key keeps the keys, adding a new one at the end. -/
theorem keys_setEntry (entries : List (String × String)) (key value : String) :
    (setEntry entries key value).map (·.1) =
      if key ∈ entries.map (·.1) then entries.map (·.1) else entries.map (·.1) ++ [key] := by
  unfold setEntry
  by_cases hk : key ∈ entries.map (·.1)
  · have hany : entries.any (·.1 == key) = true := by simpa using hk
    simp only [hany, if_true, hk, List.map_map]
    exact List.map_congr_left fun kv _ => by by_cases h : kv.1 = key <;> simp [h]
  · have hany : entries.any (·.1 == key) = false := by
      refine List.any_eq_false.mpr fun kv hkv he => hk ?_
      rw [← beq_iff_eq.mp he]
      exact List.mem_map_of_mem hkv
    simp [hany, hk]

/-- Reading qualifier tokens keeps each key at the place of its first occurrence. -/
theorem keys_foldl_qualifierStep :
    ∀ (tokens : List Token) (entries : List (String × String)), (entries.map (·.1)).Nodup →
      (tokens.foldl qualifierStep entries).map (·.1) =
        (entries.map (·.1) ++ tokens.filterMap Token.key?).eraseDups
  | [], _, h => by simp [eraseDups_of_nodup h]
  | .word _ :: ts, entries, h => by
    simp only [List.foldl_cons, qualifierStep, List.filterMap_cons, Token.key?]
    exact keys_foldl_qualifierStep ts entries h
  | .qualifier k v :: ts, entries, h => by
    rw [List.foldl_cons]
    by_cases hk : k ∈ entries.map (·.1)
    · -- a key seen before stays where it was
      have hkeys : (qualifierStep entries (.qualifier k v)).map (·.1) = entries.map (·.1) := by
        simp [qualifierStep, keys_setEntry, hk]
      rw [keys_foldl_qualifierStep ts _ (hkeys ▸ h), hkeys]
      simp only [Token.key?, List.filterMap_cons, List.eraseDups_append]
      congr 2
      simp [List.removeAll, hk]
    · -- a new key goes last
      have hkeys : (qualifierStep entries (.qualifier k v)).map (·.1) = entries.map (·.1) ++ [k] := by
        simp [qualifierStep, keys_setEntry, hk]
      have hnodup : (entries.map (·.1) ++ [k]).Nodup := by
        rw [List.nodup_append_comm]
        exact List.nodup_cons.mpr ⟨hk, h⟩
      rw [keys_foldl_qualifierStep ts _ (hkeys ▸ hnodup), hkeys]
      simp [Token.key?]

/-- Looking up a key among the tokens' pairs finds its first token's value. -/
theorem lookup_filterMap_pair (k : String) :
    ∀ tokens : List Token, (tokens.filterMap Token.pair?).lookup k =
      tokens.findSome? (Token.valueFor? k)
  | [] => rfl
  | .word _ :: ts => by
    rw [List.filterMap_cons, List.findSome?_cons]
    exact lookup_filterMap_pair k ts
  | .qualifier k' v :: ts => by
    rw [List.filterMap_cons, List.findSome?_cons]
    by_cases he : k' = k
    · simp [Token.pair?, Token.valueFor?, he]
    · have hne : (k == k') = false := beq_eq_false_iff_ne.mpr (Ne.symm he)
      simp [Token.pair?, Token.valueFor?, List.lookup_cons, hne, he, lookup_filterMap_pair k ts]

/-- The qualifiers read from tokens are the ordered map of the qualifier tokens' pairs. -/
theorem qualifiers_ofTokens_eq_orderedMap (tokens : List Token) :
    (SearchQuery.ofTokens tokens).qualifiers = orderedMap (tokens.filterMap Token.pair?) := by
  have hkeys : (tokens.foldl qualifierStep []).map (·.1) = (tokens.filterMap Token.key?).eraseDups := by
    simpa using keys_foldl_qualifierStep tokens [] List.nodup_nil
  have hpairs : (tokens.filterMap Token.pair?).map (·.1) = tokens.filterMap Token.key? := by
    rw [List.map_filterMap]
    congr 1
    funext t
    cases t <;> rfl
  have hnodup : ((tokens.foldl qualifierStep []).map (·.1)).Nodup := by
    rw [hkeys]
    exact nodup_eraseDups _
  rw [qualifiers_ofTokens, eq_map_lookup_of_nodup "" hnodup, hkeys, orderedMap, hpairs]
  refine List.map_congr_left fun k _ => ?_
  -- both look up the value of the last qualifier token with the key
  rw [lookup_foldl_qualifierStep, ← List.filterMap_reverse, lookup_filterMap_pair,
    List.getLast?_filterMap]
  simp

/-- Every entry of an ordered map is one of its pairs. -/
theorem mem_orderedMap {pairs : List (String × String)} {kv : String × String}
    (h : kv ∈ orderedMap pairs) : kv ∈ pairs := by
  obtain ⟨k, hk, rfl⟩ := List.mem_map.mp h
  obtain ⟨⟨k', v⟩, hp, rfl⟩ := List.mem_map.mp (List.mem_eraseDups.mp hk)
  -- the key has a value, which looking it up from the end finds
  cases hl : pairs.reverse.lookup k' with
  | none =>
    rw [List.lookup_eq_none_iff] at hl
    simpa using hl (k', v) (List.mem_reverse.mpr hp)
  | some v' =>
    obtain ⟨l₁, l₂, heq, -⟩ := List.lookup_eq_some_iff.mp hl
    have hmem : (k', v') ∈ pairs.reverse := by simp [heq]
    simpa using List.mem_reverse.mp hmem

/-- An ordered map's keys are the pairs' keys without repeats, in order of first appearance. -/
theorem keys_orderedMap (pairs : List (String × String)) :
    (orderedMap pairs).map (·.1) = (pairs.map (·.1)).eraseDups := by
  simp [orderedMap, List.map_map, Function.comp_def]

/-! ## The query the grammar describes -/

/-- The query the grammar describes: tokens between blanks, by first colon; words the term,
qualifiers an ordered map. -/
def SearchQuery.described (s : String) : SearchQuery :=
  let tokens := (piecesBetweenBlanks s.toList).map Token.byFirstColon
  { term := " ".intercalate (tokens.filterMap Token.word?),
    qualifiers := orderedMap (tokens.filterMap Token.pair?) }

/-- The tokens of a text are its pieces between blanks, each split at its first colon. -/
theorem tokensOf_eq_byFirstColon (s : String) :
    tokensOf s = (piecesBetweenBlanks s.toList).map Token.byFirstColon := by
  rw [tokensOf, wordsOf_eq_piecesBetweenBlanks]
  exact List.map_congr_left fun t _ => Token.ofChars_eq_byFirstColon t

/-- Reading query text gives the query its grammar describes. -/
theorem SearchQuery.parse_eq_described (s : String) :
    SearchQuery.parse s = SearchQuery.described s := by
  have hterm := term_ofTokens (tokensOf s)
  have hquals := qualifiers_ofTokens_eq_orderedMap (tokensOf s)
  rw [SearchQuery.parse, SearchQuery.described]
  rw [tokensOf_eq_byFirstColon] at hterm hquals ⊢
  rw [← hterm, ← hquals]

example : SearchQuery.parse "gopx in:name a:b:c x: a:z" =
    { term := "gopx x:", qualifiers := [("in", "name"), ("a", "z")] } := by decide +kernel

/-! ## Writing a query back -/

/-- Text that reads as one word: non-empty, without blanks, and not shaped as a qualifier. -/
structure WordText (w : String) : Prop where
  ne_nil : w.toList ≠ []
  not_blank : ∀ c ∈ w.toList, isBlank c = false
  reads_as_word : Token.byFirstColon w.toList = .word w

/-- Text that a qualifier's value can be: non-empty and without blanks. -/
structure ValueText (v : String) : Prop where
  ne_nil : v.toList ≠ []
  not_blank : ∀ c ∈ v.toList, isBlank c = false

/-- A query text can express: a term of words joined by single spaces, distinct keys and values
tokens can carry. -/
structure SearchQuery.Expressible (q : SearchQuery) : Prop where
  term_words : ∃ ws, q.term = " ".intercalate ws ∧ ∀ w ∈ ws, WordText w
  keys_nodup : (q.qualifiers.map (·.1)).Nodup
  keys : ∀ kv ∈ q.qualifiers, KeyText kv.1
  values : ∀ kv ∈ q.qualifiers, ValueText kv.2

/-- A piece between blanks that reads as a word is text that reads as a word. -/
theorem Token.wordText_of_byFirstColon {t : List Char} {w : String}
    (ht : t ≠ [] ∧ ∀ c ∈ t, isBlank c = false) (h : Token.byFirstColon t = .word w) :
    WordText w := by
  have hw := Token.ofChars_eq_word ((Token.ofChars_eq_byFirstColon t).trans h)
  subst hw
  refine ⟨by simpa using ht.1, by simpa using ht.2, ?_⟩
  rw [String.toList_ofList]
  exact h

/-- A piece between blanks that reads as a qualifier has a key a token can name and a value a
token can carry. -/
theorem Token.qualifierText_of_byFirstColon {t : List Char} {k v : String}
    (ht : t ≠ [] ∧ ∀ c ∈ t, isBlank c = false) (h : Token.byFirstColon t = .qualifier k v) :
    KeyText k ∧ ValueText v := by
  obtain ⟨rfl, hk, hcolon, hv⟩ := Token.ofChars_eq_qualifier ((Token.ofChars_eq_byFirstColon t).trans h)
  have hblank := ht.2
  simp only [List.mem_append, List.mem_cons] at hblank
  exact ⟨⟨hk, hcolon, fun c hc => hblank c (.inl hc)⟩,
    ⟨hv, fun c hc => hblank c (.inr (.inr hc))⟩⟩

/-- Every query read from text can be expressed as text. -/
theorem SearchQuery.expressible_parse (s : String) : (SearchQuery.parse s).Expressible := by
  have hterm := term_ofTokens (tokensOf s)
  have hquals := qualifiers_ofTokens_eq_orderedMap (tokensOf s)
  rw [tokensOf_eq_byFirstColon] at hterm hquals
  -- every token is the reading of a piece between blanks
  have hpiece : ∀ tok ∈ (piecesBetweenBlanks s.toList).map Token.byFirstColon,
      ∃ t, (t ≠ [] ∧ ∀ c ∈ t, isBlank c = false) ∧ Token.byFirstColon t = tok := by
    intro tok htok
    obtain ⟨t, ht, rfl⟩ := List.mem_map.mp htok
    exact ⟨t, mem_piecesBetweenBlanks ht, rfl⟩
  have hpair : ∀ kv ∈ ((piecesBetweenBlanks s.toList).map Token.byFirstColon).filterMap Token.pair?,
      KeyText kv.1 ∧ ValueText kv.2 := by
    intro kv hkv
    obtain ⟨tok, htok, hp⟩ := List.mem_filterMap.mp hkv
    obtain ⟨t, ht, rfl⟩ := hpiece tok htok
    cases hq : Token.byFirstColon t with
    | word w => simp [hq, Token.pair?] at hp
    | qualifier k v =>
      simp only [hq, Token.pair?, Option.some.injEq] at hp
      subst hp
      exact Token.qualifierText_of_byFirstColon ht hq
  rw [SearchQuery.parse, tokensOf_eq_byFirstColon]
  refine ⟨⟨_, hterm, fun w hw => ?_⟩, ?_, fun kv hkv => ?_, fun kv hkv => ?_⟩
  · obtain ⟨tok, htok, hw⟩ := List.mem_filterMap.mp hw
    obtain ⟨t, ht, rfl⟩ := hpiece tok htok
    cases hq : Token.byFirstColon t with
    | word w' =>
      simp only [hq, Token.word?, Option.some.injEq] at hw
      subst hw
      exact Token.wordText_of_byFirstColon ht hq
    | qualifier k v => simp [hq, Token.word?] at hw
  · rw [hquals, keys_orderedMap]
    exact nodup_eraseDups _
  · rw [hquals] at hkv
    exact (hpair kv (mem_orderedMap hkv)).1
  · rw [hquals] at hkv
    exact (hpair kv (mem_orderedMap hkv)).2

/-- A query's text, its term non-empty words joined by spaces: the words, then `key:value`
qualifiers, space-joined. -/
theorem SearchQuery.toText_eq {q : SearchQuery} {ws : List String}
    (hterm : q.term = " ".intercalate ws) (hws : ∀ w ∈ ws, w ≠ "") :
    q.toText = " ".intercalate (ws ++ q.qualifiers.map fun kv => kv.1 ++ ":" ++ kv.2) := by
  rw [SearchQuery.toText]
  cases ws with
  | nil => simp [hterm]
  | cons w ws =>
    have hw : w ≠ "" := hws w List.mem_cons_self
    -- a term of words is not empty
    have hne : q.term.isEmpty = false := by
      rw [hterm]
      cases ws with
      | nil => simpa using hw
      | cons w' ws' =>
        rw [String.intercalate_cons_of_ne_nil (List.cons_ne_nil _ _)]
        simp [hw]
    simp only [hne, Bool.false_eq_true, if_false]
    cases hparts : q.qualifiers.map (fun kv => kv.1 ++ ":" ++ kv.2) with
    | nil => simp [hterm]
    | cons p ps =>
      rw [String.intercalate_cons_of_ne_nil (List.cons_ne_nil _ _), hterm,
        String.intercalate_append_of_ne_nil (List.cons_ne_nil _ _) (List.cons_ne_nil _ _)]

/-- The tokens of a query's text: its words, then its qualifiers, in order. -/
theorem SearchQuery.tokensOf_toText {q : SearchQuery} (hq : q.Expressible) {ws : List String}
    (hterm : q.term = " ".intercalate ws) (hws : ∀ w ∈ ws, WordText w) :
    tokensOf q.toText = ws.map Token.word ++ q.qualifiers.map fun kv => .qualifier kv.1 kv.2 := by
  have hne : ∀ w ∈ ws, w ≠ "" := fun w hw he => (hws w hw).ne_nil (by simp [he])
  -- each piece of the text is a word's or a qualifier's characters, without blanks
  have hpieces : ∀ x ∈ (ws ++ q.qualifiers.map fun kv => kv.1 ++ ":" ++ kv.2).map String.toList,
      x ≠ [] ∧ ∀ c ∈ x, isBlank c = false := by
    simp only [List.map_append, List.map_map, List.mem_append, List.mem_map, Function.comp_apply]
    rintro x (⟨w, hw, rfl⟩ | ⟨kv, hkv, rfl⟩)
    · exact ⟨(hws w hw).ne_nil, (hws w hw).not_blank⟩
    · have hk := hq.keys kv hkv
      have hv := hq.values kv hkv
      refine ⟨by simp, fun c hc => ?_⟩
      simp only [String.toList_append, List.mem_append] at hc
      rcases hc with (hc | hc) | hc
      · exact hk.not_blank c hc
      · simp only [show ":".toList = [':'] from rfl, List.mem_singleton] at hc
        subst hc
        decide
      · exact hv.not_blank c hc
  rw [tokensOf, SearchQuery.toText_eq hterm hne, String.toList_intercalate,
    wordsOf_eq_piecesBetweenBlanks, show " ".toList = [' '] from rfl,
    piecesBetweenBlanks_intercalate hpieces, List.map_map, List.map_append, List.map_map]
  congr 1
  · refine List.map_congr_left fun w hw => ?_
    simpa [Token.ofChars_eq_byFirstColon] using (hws w hw).reads_as_word
  · refine List.map_congr_left fun kv hkv => ?_
    have hk := hq.keys kv hkv
    have hv := hq.values kv hkv
    have hchars : (kv.1 ++ ":" ++ kv.2).toList = kv.1.toList ++ ':' :: kv.2.toList := by simp
    simp only [Function.comp_apply, hchars,
      Token.ofChars_qualifier hk.ne_nil hk.colon_not_mem hv.ne_nil, String.ofList_toList]

/-- A query that text can express is read back from its text. -/
theorem SearchQuery.parse_toText {q : SearchQuery} (hq : q.Expressible) :
    SearchQuery.parse q.toText = q := by
  obtain ⟨ws, hterm, hws⟩ := hq.term_words
  have htokens := SearchQuery.tokensOf_toText hq hterm hws
  have hwords : (ws.map Token.word ++ q.qualifiers.map fun kv => Token.qualifier kv.1 kv.2).filterMap
      Token.word? = ws := by
    simp [List.filterMap_append, Token.word?, List.filterMap_map, Function.comp_def]
  have hpairs : (ws.map Token.word ++ q.qualifiers.map fun kv => Token.qualifier kv.1 kv.2).filterMap
      Token.pair? = q.qualifiers := by
    simp [List.filterMap_append, Token.pair?, List.filterMap_map, Function.comp_def]
  have hterm' : (SearchQuery.parse q.toText).term = q.term := by
    rw [SearchQuery.parse, term_ofTokens, htokens, hwords, hterm]
  have hquals' : (SearchQuery.parse q.toText).qualifiers = q.qualifiers := by
    rw [SearchQuery.parse, qualifiers_ofTokens_eq_orderedMap, htokens, hpairs,
      orderedMap_of_nodup hq.keys_nodup]
  calc SearchQuery.parse q.toText
      = ⟨(SearchQuery.parse q.toText).term, (SearchQuery.parse q.toText).qualifiers⟩ := rfl
    _ = q := by rw [hterm', hquals']

/-- Writing a read query back and reading it again gives the same query: same term, same
qualifiers in order. -/
theorem SearchQuery.parse_toText_parse (s : String) :
    SearchQuery.parse (SearchQuery.parse s).toText = SearchQuery.parse s :=
  SearchQuery.parse_toText (SearchQuery.expressible_parse s)

end PackageRegistry.Search
