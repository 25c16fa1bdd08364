import Mathlib
import PackageRegistry.Proofs.Search.Config
import PackageRegistry.Proofs.Search.QualifierMap
/-!
# Requests that differ only in the order of their tokens

Compiling reads a query's words in order and, per known key, its last token. So requests whose
tokens read alike (`EntitySearch.SameReading`) compile alike, and swapping neighbouring tokens
of different kinds keeps the reading.
-/

namespace PackageRegistry.Search

open PackageRegistry.Text

namespace EntitySearch

/-- The keys an entity reads from a query: `in`, then its qualifier names. -/
def readKeys (e : EntitySearch) : List String := inQualifier :: e.qualifiers.map (·.1)

/-! ## What compiling reads -/

/-- With its `in` default filled in, a query still reads as the query did on the keys the
entity knows. -/
theorem get_withDefaults_congr (e : EntitySearch) {q₁ q₂ : SearchQuery}
    (hget : ∀ k ∈ e.readKeys, q₁.get k = q₂.get k) :
    ∀ k ∈ e.readKeys, (q₁.withDefaults [(inQualifier, e.defaultIn)]).get k =
      (q₂.withDefaults [(inQualifier, e.defaultIn)]).get k := by
  intro k hk
  by_cases hin : k = inQualifier
  · subst hin
    rw [get_withDefaults_self, get_withDefaults_self, hget _ hk]
  · rw [get_withDefaults_of_ne _ _ hin, get_withDefaults_of_ne _ _ hin, hget _ hk]

/-- The filter reads the term and the keys the entity knows. -/
theorem filterOf_congr (e : EntitySearch) {q₁ q₂ : SearchQuery} (hterm : q₁.term = q₂.term)
    (hget : ∀ k ∈ e.readKeys, q₁.get k = q₂.get k) : e.filterOf q₁ = e.filterOf q₂ := by
  have hdefault := e.get_withDefaults_congr hget
  dsimp only [filterOf]
  rw [term_withDefaults, term_withDefaults, hterm]
  -- from here on the defaulted queries matter only through what they read
  generalize q₁.withDefaults [(inQualifier, e.defaultIn)] = r₁ at hdefault ⊢
  generalize q₂.withDefaults [(inQualifier, e.defaultIn)] = r₂ at hdefault ⊢
  rw [hdefault inQualifier List.mem_cons_self]
  refine bind_congr fun first => congrArg (· >>= _) ?_
  -- each qualifier reads its own key, which both queries give the same value
  refine mapM_congr_of_mem fun nq hnq => ?_
  rw [hdefault nq.1 (List.mem_cons_of_mem _ (List.mem_map_of_mem hnq))]

/-- The compiled search reads the query only through its filter. -/
theorem compile_congr (e : EntitySearch) {q₁ q₂ : SearchQuery} (hterm : q₁.term = q₂.term)
    (hget : ∀ k ∈ e.readKeys, q₁.get k = q₂.get k) (page : PageRequest) (sort : SortRequest) :
    e.compile q₁ page sort = e.compile q₂ page sort := by
  simp only [compile, e.filterOf_congr hterm hget]

/-! ## Tokens that read alike -/

/-- Token sequences an entity cannot tell apart: the same words in order and, per known key, the
same tokens in order. -/
def SameReading (e : EntitySearch) (ts₁ ts₂ : List Token) : Prop :=
  ts₁.filter (·.key? == none) = ts₂.filter (·.key? == none) ∧
    ∀ k ∈ e.readKeys, ts₁.filter (·.key? == some k) = ts₂.filter (·.key? == some k)

/-- Whether two token lists read alike is decided key by key. -/
instance (e : EntitySearch) (ts₁ ts₂ : List Token) : Decidable (e.SameReading ts₁ ts₂) :=
  inferInstanceAs (Decidable (_ ∧ _))

/-- Tokens read as themselves. -/
theorem SameReading.refl (e : EntitySearch) (ts : List Token) : e.SameReading ts ts :=
  ⟨rfl, fun _ _ => rfl⟩

/-- Reading alike is symmetric. -/
theorem SameReading.symm {e : EntitySearch} {ts₁ ts₂ : List Token}
    (h : e.SameReading ts₁ ts₂) : e.SameReading ts₂ ts₁ :=
  ⟨h.1.symm, fun k hk => (h.2 k hk).symm⟩

/-- Reading alike is transitive. -/
theorem SameReading.trans {e : EntitySearch} {ts₁ ts₂ ts₃ : List Token}
    (h₁₂ : e.SameReading ts₁ ts₂) (h₂₃ : e.SameReading ts₂ ts₃) : e.SameReading ts₁ ts₃ :=
  ⟨h₁₂.1.trans h₂₃.1, fun k hk => (h₁₂.2 k hk).trans (h₂₃.2 k hk)⟩

/-- Queries read from tokens that read alike have the same term and the same value for every
key the entity knows. -/
theorem SameReading.ofTokens {e : EntitySearch} {ts₁ ts₂ : List Token}
    (h : e.SameReading ts₁ ts₂) :
    (SearchQuery.ofTokens ts₁).term = (SearchQuery.ofTokens ts₂).term ∧
      ∀ k ∈ e.readKeys, (SearchQuery.ofTokens ts₁).get k = (SearchQuery.ofTokens ts₂).get k := by
  refine ⟨?_, fun k hk => ?_⟩
  · rw [← term_ofTokens_filter ts₁, h.1, term_ofTokens_filter]
  · rw [← get_ofTokens_filter ts₁, h.2 k hk, get_ofTokens_filter]

/-! ## Rearranging tokens -/

/-- One rearrangement: swap neighbouring tokens of different kinds, or add or drop a qualifier
the entity ignores. -/
inductive RearrangeStep (e : EntitySearch) : List Token → List Token → Prop where
  | swap (pre post : List Token) (a b : Token) (h : a.key? ≠ b.key?) :
      RearrangeStep e (pre ++ a :: b :: post) (pre ++ b :: a :: post)
  | insert (pre post : List Token) (k v : String) (h : k ∉ e.readKeys) :
      RearrangeStep e (pre ++ post) (pre ++ .qualifier k v :: post)
  | delete (pre post : List Token) (k v : String) (h : k ∉ e.readKeys) :
      RearrangeStep e (pre ++ .qualifier k v :: post) (pre ++ post)

/-- Any number of rearrangements. -/
def Rearranges (e : EntitySearch) : List Token → List Token → Prop :=
  Relation.ReflTransGen (RearrangeStep e)

/-- Swapping two tokens not both kept leaves the tokens kept. -/
theorem filter_swap (p : Token → Bool) (pre post : List Token) {a b : Token}
    (h : ¬(p a = true ∧ p b = true)) :
    (pre ++ a :: b :: post).filter p = (pre ++ b :: a :: post).filter p := by
  by_cases ha : p a = true
  · have hb : p b = false := by simpa [ha] using h
    simp [List.filter_append, ha, hb]
  · simp [List.filter_append, List.filter_cons, ha]

/-- Adding a token not kept leaves the tokens kept. -/
theorem filter_insert (p : Token → Bool) (pre post : List Token) {t : Token} (h : p t = false) :
    (pre ++ post).filter p = (pre ++ t :: post).filter p := by
  simp [List.filter_append, h]

/-- Tokens of different kinds are not both of one kind. -/
theorem not_both_key? {a b : Token} (hab : a.key? ≠ b.key?) (kind : Option String) :
    ¬((a.key? == kind) = true ∧ (b.key? == kind) = true) := by
  rintro ⟨ha, hb⟩
  exact hab ((beq_iff_eq.mp ha).trans (beq_iff_eq.mp hb).symm)

/-- Adding a qualifier token whose key the entity does not read keeps the reading. -/
theorem sameReading_insert {e : EntitySearch} (pre post : List Token) {k : String} (v : String)
    (hk : k ∉ e.readKeys) : e.SameReading (pre ++ post) (pre ++ .qualifier k v :: post) := by
  refine ⟨filter_insert _ pre post (by simp [Token.key?]), fun k' hk' => ?_⟩
  have hne : k ≠ k' := fun h => hk (h ▸ hk')
  exact filter_insert _ pre post (by simp [Token.key?, hne])

/-- One rearrangement keeps the reading. -/
theorem RearrangeStep.sameReading {e : EntitySearch} {ts₁ ts₂ : List Token}
    (h : RearrangeStep e ts₁ ts₂) : e.SameReading ts₁ ts₂ := by
  cases h with
  | swap pre post a b hab =>
    exact ⟨filter_swap _ pre post (not_both_key? hab none),
      fun k _ => filter_swap _ pre post (not_both_key? hab (some k))⟩
  | insert pre post k v hk => exact sameReading_insert pre post v hk
  | delete pre post k v hk => exact (sameReading_insert pre post v hk).symm

/-- Any sequence of rearrangements keeps the reading. -/
theorem Rearranges.sameReading {e : EntitySearch} {ts₁ ts₂ : List Token}
    (h : e.Rearranges ts₁ ts₂) : e.SameReading ts₁ ts₂ := by
  induction h with
  | refl => exact SameReading.refl e ts₁
  | tail _ hstep ih => exact ih.trans hstep.sameReading

/-! ## Requests -/

/-- Raw requests whose tokens read alike compile to the same search, for every page and sort
request. -/
theorem compileRequest_eq_of_sameReading (e : EntitySearch) (q₁ q₂ : Option String)
    (h : e.SameReading (tokensOf (q₁.getD "")) (tokensOf (q₂.getD "")))
    (sort order page perPage : Option String) :
    e.compileRequest q₁ sort order page perPage = e.compileRequest q₂ sort order page perPage :=
  e.compile_congr h.ofTokens.1 h.ofTokens.2 _ _

/-- Raw requests whose tokens are rearrangements of each other (neighbouring tokens of different
kinds swapped, qualifiers the entity ignores added or dropped, any number of times) compile to
the same search. -/
theorem compileRequest_eq_of_rearranges (e : EntitySearch) (q₁ q₂ : Option String)
    (h : e.Rearranges (tokensOf (q₁.getD "")) (tokensOf (q₂.getD "")))
    (sort order page perPage : Option String) :
    e.compileRequest q₁ sort order page perPage = e.compileRequest q₂ sort order page perPage := by
  have hread := h.sameReading
  exact e.compile_congr hread.ofTokens.1 hread.ofTokens.2 _ _

/-- A packages request reordered, with a qualifier it ignores dropped, compiles alike. -/
theorem packages_compileRequest_reordered :
    packages.SameReading (tokensOf "web downloads:>10 color:red owner:ann")
        (tokensOf "owner:ann downloads:>10 web") ∧
      packages.compileRequest (some "web downloads:>10 color:red owner:ann") none none none none =
        packages.compileRequest (some "owner:ann downloads:>10 web") none none none none := by
  have h : packages.SameReading (tokensOf "web downloads:>10 color:red owner:ann")
      (tokensOf "owner:ann downloads:>10 web") := by
    decide +kernel
  exact ⟨h, compileRequest_eq_of_sameReading packages (some "web downloads:>10 color:red owner:ann")
    (some "owner:ann downloads:>10 web") h _ _ _ _⟩

end EntitySearch

end PackageRegistry.Search
