import Mathlib
import PackageRegistry.Proofs.Store.KeyedRows
/-!
# What a users search reveals

A user's row shows no hash, and the e-mail address only when public; a search might still reveal
a secret by which rows it returns. Registries with the same redaction (`Registry.redacted`)
answer alike on an engine reading the named columns, unless the free text is matched against
private e-mail addresses (`Registry.privateEmail_found_by_search`).
-/

namespace PackageRegistry.Sql

/-- Two relations alike in some columns: the second is the first with each row replaced by one
holding in those columns what it holds. -/
structure Relation.AlikeOn (names : List String) (rel rel' : Relation) : Prop where
  same : rel' = { rel with rows := rel'.rows }
  rows : List.Forall₂ (fun row row' => ∀ n ∈ names, rel.valueAt row n = rel.valueAt row' n)
    rel.rows rel'.rows

end PackageRegistry.Sql

namespace PackageRegistry.Search

open PackageRegistry.Text

/-- The columns a query's free text is matched against: none for a blank term, else those its
`in:` value lists, every in-field by default. -/
def EntitySearch.textColumns (e : EntitySearch) (query : SearchQuery) : List String :=
  if isBlankText (decodeValue (query.withDefaults [(inQualifier, e.defaultIn)]).term) then []
  else listedColumns e.inColumns
    (decodeValue ((query.withDefaults [(inQualifier, e.defaultIn)]).get inQualifier))

/-- A condition of a query names the columns its free text is matched against, or a qualifier's
column. -/
theorem EntitySearch.columns_of_conditions {e : EntitySearch} {query : SearchQuery} :
    ∀ c ∈ e.conditions query, ∀ x ∈ c.columns,
      x ∈ e.textColumns query ∨ x ∈ e.qualifiers.map (·.2.column) := by
  intro c hc x hx
  simp only [EntitySearch.conditions, List.filterMap_cons, id] at hc
  split at hc
  · exact .inr (EntitySearch.mem_qualifierColumns hc x hx)
  · next cin hin =>
    rcases List.mem_cons.mp hc with rfl | hc
    · -- the free-text condition: words of a term that is not blank, in the listed columns
      unfold inCondition? at hin
      split at hin
      · cases hin
      · next hblank =>
        rw [columns_of_anyLike? hin] at hx
        obtain ⟨p, hp, rfl⟩ := List.mem_map.mp hx
        obtain ⟨col, hcol, hp⟩ := List.mem_flatMap.mp hp
        left
        rw [EntitySearch.textColumns, if_neg hblank, fst_of_mem_likePairs hp]
        exact hcol
    · exact .inr (EntitySearch.mem_qualifierColumns hc x hx)

/-- The columns free text is matched against are in-columns. -/
theorem EntitySearch.mem_inColumns_of_mem_textColumns {e : EntitySearch} {query : SearchQuery}
    {x : String} (h : x ∈ e.textColumns query) : x ∈ e.inColumns.columns := by
  unfold EntitySearch.textColumns at h
  split at h
  · cases h
  · exact mem_columns_of_mem_listedColumns h

end PackageRegistry.Search

namespace PackageRegistry.Store

open PackageRegistry.Sql PackageRegistry.Search

/-! ## Secrets -/

/-- A user with the password hash blanked, and the e-mail address too when it is private and
`hidesEmail` is set. -/
def UserRecord.redacted (hidesEmail : Bool) (u : UserRecord) : UserRecord :=
  { u with password := "", email := if hidesEmail && !u.isPublicEmail then "" else u.email }

/-- A registry with its users redacted and its API key hashes blanked: two registries with the
same redaction differ at most in those secrets. -/
def Registry.redacted (hidesEmail : Bool) (r : Registry) : Registry :=
  { r with users := r.users.map (UserRecord.redacted hidesEmail),
           apiKeys := r.apiKeys.map fun k => { k with apiKey := "" } }

/-- A user's row shows the same as the row of the redacted user in the redacted registry. -/
theorem Registry.userResult_toJson_redacted (hidesEmail : Bool) (r : Registry) (u : UserRecord) :
    ((r.redacted hidesEmail).userResult (u.redacted hidesEmail)).toJson =
      (r.userResult u).toJson := by
  cases hpub : u.isPublicEmail <;>
    simp [Registry.userResult, UserRow.ofValues, UserRow.toJson, Registry.usersView_project,
      Registry.userViewRow, Registry.redacted, UserRecord.redacted, Registry.ownedCount, hpub,
      SqlValue.isSet]

/-- The columns of the users view that hold no secret: all but the password and API key hashes,
and but the e-mail address when `hidesEmail` is set. -/
def visibleUserColumns (hidesEmail : Bool) : List String :=
  (userColumns.map (·.name)).filter fun n =>
    n != "password" && n != "api_key" && !(hidesEmail && n == "email")

/-- A user's row holds in every column without a secret what the redacted user's row holds in
the redacted registry. -/
theorem Registry.valueAt_userViewRow_redacted (hidesEmail : Bool) (r : Registry) (u : UserRecord) :
    ∀ n ∈ visibleUserColumns hidesEmail, r.usersView.valueAt (r.userViewRow u) n =
      r.usersView.valueAt ((r.redacted hidesEmail).userViewRow (u.redacted hidesEmail)) n := by
  cases hidesEmail <;>
  · intro n hn
    simp only [visibleUserColumns, userColumns, List.map_cons, List.map_nil, List.filter_cons,
      List.filter_nil] at hn
    simp at hn
    rcases hn with rfl | rfl | rfl | rfl | rfl | rfl | rfl | rfl | rfl | rfl | rfl | rfl | rfl |
      rfl | rfl <;> rfl

/-- The columns of the users view that never hold a secret. -/
theorem mem_visibleUserColumns {hidesEmail : Bool} {x : String}
    (hx : x ∈ ["id", "username", "name", "location", "joined_at", "packages_count"]) :
    x ∈ visibleUserColumns hidesEmail := by
  simp only [List.mem_cons, List.not_mem_nil, or_false] at hx
  rcases hx with rfl | rfl | rfl | rfl | rfl | rfl <;> cases hidesEmail <;> decide

/-! ## What a query reads -/

/-- Answers over two relations that fail alike, or return the rows at the same places of
both. -/
def PicksAlike {ε : Type} (rel rel' : Relation) (x x' : Except ε (List (List SqlValue))) : Prop :=
  (∃ e, x = .error e ∧ x' = .error e) ∨
    ∃ picks : List Nat, x = .ok (picks.map fun i => rel.project (rel.rows.getD i [])) ∧
      x' = .ok (picks.map fun i => rel'.project (rel'.rows.getD i []))

/-- What SQLite documents for `SELECT … WHERE … ORDER BY … LIMIT … OFFSET` without `DISTINCT`:
which rows are kept, their order and window read only the columns the filter and order name. -/
def Engine.ReadsNamedColumns (engine : Engine) : Prop :=
  ∀ (names : List String) (db db' : Database) (rel rel' : Relation), rel.AlikeOn names rel' →
    rel.distinct = false → ∀ cs : List Condition, (∀ c ∈ cs, ∀ x ∈ c.columns, x ∈ names) →
    ∀ orderBy, OrderText names orderBy → ∀ fragment binds,
    boundFilter (conjunction cs).fragment ((conjunction cs).params.map .text) =
      .ok (fragment, binds) →
    ∀ limit offset (window : List (String × Parameter)),
      PicksAlike rel rel'
        (engine db rel (queryTail fragment orderBy limit offset) (binds ++ window)).2
        (engine db' rel' (queryTail fragment orderBy limit offset) (binds ++ window)).2

/-- Picking alike survives renaming the failures. -/
theorem PicksAlike.mapError {ε ε' : Type} (f : ε → ε') {rel rel' : Relation}
    {x x' : Except ε (List (List SqlValue))} (h : PicksAlike rel rel' x x') :
    PicksAlike rel rel' (x.mapError f) (x'.mapError f) := by
  rcases h with ⟨e, rfl, rfl⟩ | ⟨picks, rfl, rfl⟩
  · exact .inl ⟨f e, rfl, rfl⟩
  · exact .inr ⟨picks, rfl, rfl⟩

/-- A query over relations alike in the columns it names picks rows at the same places of both,
through an engine reading only those columns. -/
theorem queryViewWith_picksAlike {engine : Engine} (h : engine.ReadsNamedColumns)
    {names : List String} {db db' : Database} {rel rel' : Relation} (hrel : rel.AlikeOn names rel')
    (hd : rel.distinct = false) {cs : List Condition} (hcs : ∀ c ∈ cs, ∀ x ∈ c.columns, x ∈ names)
    {orderBy : String} (horder : OrderText names orderBy) (limit offset : Option Int) :
    PicksAlike rel rel'
      (queryViewWith (engine db rel) db (conjunction cs).fragment
        ((conjunction cs).params.map .text) orderBy limit offset).2
      (queryViewWith (engine db' rel') db' (conjunction cs).fragment
        ((conjunction cs).params.map .text) orderBy limit offset).2 := by
  rcases queryViewWith_cases (conjunction cs).fragment ((conjunction cs).params.map .text) orderBy
      limit offset with hnone | ⟨e, herr⟩ | ⟨fragment, binds, window, hb, hrun⟩
  · rw [hnone, hnone]
    exact .inr ⟨[], rfl, rfl⟩
  · rw [herr, herr]
    exact .inl ⟨e, rfl, rfl⟩
  · rw [hrun, hrun]
    exact (h names db db' rel rel' hrel hd cs hcs orderBy horder fragment binds hb limit offset
      window).mapError _

/-! ## The searches of two registries that differ in secrets -/

/-- Lists related item by item are related at every place, defaults included. -/
theorem forall₂_getD {α β : Type} {R : α → β → Prop} {l : List α} {l' : List β}
    (h : List.Forall₂ R l l') {d : α} {d' : β} (hd : R d d') :
    ∀ i, R (l.getD i d) (l'.getD i d') := by
  induction h with
  | nil => exact fun _ => hd
  | cons hab _ ih =>
    intro i
    cases i with
    | zero => exact hab
    | succ i => exact ih i

/-- Two registries with the same redaction list their users pairwise with the same redaction. -/
theorem Registry.forall₂_users_of_redacted {hidesEmail : Bool} {r r' : Registry}
    (h : r.redacted hidesEmail = r'.redacted hidesEmail) :
    List.Forall₂ (fun u u' => u.redacted hidesEmail = u'.redacted hidesEmail) r.users r'.users := by
  have hmap : r.users.map (UserRecord.redacted hidesEmail) =
      r'.users.map (UserRecord.redacted hidesEmail) := congrArg Registry.users h
  have heq : List.Forall₂ (· = ·) (r.users.map (UserRecord.redacted hidesEmail))
      (r'.users.map (UserRecord.redacted hidesEmail)) := by
    rw [hmap]
    exact List.forall₂_same.mpr fun _ _ => rfl
  simpa only [List.forall₂_map_left_iff, List.forall₂_map_right_iff] using heq

/-- A relation between two users' rows holding of users with the same redaction holds row by row
between the users views of registries with the same redaction. -/
theorem Registry.forall₂_userRows_of_redacted {hidesEmail : Bool} {r r' : Registry}
    (h : r.redacted hidesEmail = r'.redacted hidesEmail) {R : List SqlValue → List SqlValue → Prop}
    (hR : ∀ u u', u.redacted hidesEmail = u'.redacted hidesEmail →
      R (r.userViewRow u) (r'.userViewRow u')) :
    List.Forall₂ R r.usersView.rows r'.usersView.rows := by
  show List.Forall₂ R r.userRows r'.userRows
  rw [Registry.userRows_eq, Registry.userRows_eq, List.forall₂_map_left_iff,
    List.forall₂_map_right_iff]
  exact (Registry.forall₂_users_of_redacted h).imp hR

/-- The users views of two registries with the same redaction are alike in the columns without
a secret, row by row. -/
theorem Registry.usersView_alikeOn {hidesEmail : Bool} {r r' : Registry}
    (h : r.redacted hidesEmail = r'.redacted hidesEmail) :
    r.usersView.AlikeOn (visibleUserColumns hidesEmail) r'.usersView := by
  refine ⟨rfl, Registry.forall₂_userRows_of_redacted h fun u u' hu n hn => ?_⟩
  rw [r.valueAt_userViewRow_redacted hidesEmail u n hn, h, hu]
  exact (r'.valueAt_userViewRow_redacted hidesEmail u' n hn).symm

/-- The users views of two registries with the same redaction show the same at every place. -/
theorem Registry.userRows_toJson_of_redacted {hidesEmail : Bool} {r r' : Registry}
    (h : r.redacted hidesEmail = r'.redacted hidesEmail) (i : Nat) :
    (UserRow.ofValues (r.usersView.project (r.usersView.rows.getD i []))).toJson =
      (UserRow.ofValues (r'.usersView.project (r'.usersView.rows.getD i []))).toJson := by
  have hrows : List.Forall₂ (fun row row' =>
      (UserRow.ofValues (r.usersView.project row)).toJson =
        (UserRow.ofValues (r'.usersView.project row')).toJson) r.usersView.rows r'.usersView.rows :=
    Registry.forall₂_userRows_of_redacted h fun u u' hu => by
      show (r.userResult u).toJson = (r'.userResult u').toJson
      rw [← r.userResult_toJson_redacted hidesEmail u,
        ← r'.userResult_toJson_redacted hidesEmail u', h, hu]
  exact forall₂_getD hrows rfl i

/-- A users search reads only columns without a secret, when the e-mail address is a secret only
if its free text is not matched against it. -/
theorem users_conditions_visible {hidesEmail : Bool} {query : SearchQuery}
    (hread : hidesEmail = true → "email" ∉ EntitySearch.users.textColumns query) :
    ∀ c ∈ EntitySearch.users.conditions query, ∀ x ∈ c.columns,
      x ∈ visibleUserColumns hidesEmail := by
  intro c hc x hx
  rcases EntitySearch.columns_of_conditions c hc x hx with ht | hq
  · have hin : x ∈ ["username", "name", "email"] := EntitySearch.mem_inColumns_of_mem_textColumns ht
    simp only [List.mem_cons, List.not_mem_nil, or_false] at hin
    rcases hin with rfl | rfl | rfl
    · exact mem_visibleUserColumns (by decide)
    · exact mem_visibleUserColumns (by decide)
    · -- the e-mail address is matched only when it is not a secret
      cases hidesEmail
      · decide
      · exact absurd ht (hread rfl)
  · have hq' : x ∈ ["packages_count", "location", "joined_at"] := hq
    exact mem_visibleUserColumns ((by decide : ["packages_count", "location", "joined_at"] ⊆
      ["id", "username", "name", "location", "joined_at", "packages_count"]) hq')

/-- Every users search whose free text is not matched against private e-mail addresses returns,
through an engine reading only the named columns, rows showing the same on two registries
differing only in secrets. -/
theorem Registry.usersSearch_hides_secrets {engine : Engine} (hengine : engine.ReadsNamedColumns)
    {hidesEmail : Bool} {r r' : Registry} (hsame : r.redacted hidesEmail = r'.redacted hidesEmail)
    (q sort order page perPage : Option String)
    (hread : hidesEmail = true →
      "email" ∉ EntitySearch.users.textColumns (SearchQuery.parse (q.getD ""))) :
    ∃ c, EntitySearch.users.compileRequest q sort order page perPage = .ok c ∧
      (r.queryUsersWith engine c.filter (c.params.map .text) c.orderBy (some c.limit)
          (some c.offset)).map (·.map UserRow.toJson) =
        (r'.queryUsersWith engine c.filter (c.params.map .text) c.orderBy (some c.limit)
          (some c.offset)).map (·.map UserRow.toJson) := by
  obtain ⟨orderBy, hc⟩ := EntitySearch.compile_eq_ok EntitySearch.users_valid
    (SearchQuery.parse (q.getD "")) (PageRequest.ofParams page perPage)
    (SortRequest.ofParams sort order)
  refine ⟨_, hc, ?_⟩
  -- the order is by sort columns, none of which holds a secret
  have horder : OrderText (visibleUserColumns hidesEmail) orderBy := by
    obtain ⟨cols, dir, hne, hmem, hs⟩ := EntitySearch.compile_orderText EntitySearch.users_valid hc
    refine ⟨cols, dir, hne, fun col hcol => ?_, hs⟩
    have hsort : col ∈ ["joined_at", "packages_count", "username", "id"] := hmem col hcol
    exact mem_visibleUserColumns ((by decide : ["joined_at", "packages_count", "username", "id"] ⊆
      ["id", "username", "name", "location", "joined_at", "packages_count"]) hsort)
  rcases queryViewWith_picksAlike hengine (Registry.usersView_alikeOn hsame) rfl
      (users_conditions_visible hread) horder (some _) (some _) with
    ⟨e, he, he'⟩ | ⟨picks, hp, hp'⟩
  · dsimp only
    rw [Registry.queryUsersWith, Registry.queryUsersWith, he, he']
  · dsimp only
    rw [Registry.queryUsersWith, Registry.queryUsersWith, hp, hp']
    simp only [Except.map, List.map_map]
    exact congrArg Except.ok
      (List.map_congr_left fun i _ => Registry.userRows_toJson_of_redacted hsame i)

/-- Reading a list at each of its places gives the list. -/
theorem map_range_getD {α β : Type} (f : α → β) (l : List α) (d : α) :
    (List.range l.length).map (fun i => f (l.getD i d)) = l.map f := by
  apply List.ext_getElem (by simp)
  intro i h₁ h₂
  simp [List.getD_eq_getElem?_getD, List.getElem?_eq_getElem (by simpa using h₂)]

/-- The engine that returns every row reads only the columns a query names. -/
theorem allRowsEngine_readsNamedColumns : allRowsEngine.ReadsNamedColumns := by
  intro names db db' rel rel' hrel _ _ _ _ _ _ _ _ _ _ _
  refine .inr ⟨List.range rel.rows.length, ?_, ?_⟩
  · show Except.ok (rel.rows.map rel.project) = _
    rw [map_range_getD]
  · show Except.ok (rel'.rows.map rel'.project) = _
    rw [hrel.rows.length_eq, map_range_getD]

/-- A registry of one user, `bob`, with a private e-mail address and a password hash. -/
def bobWith (email password : String) : Registry where
  users := [{ id := 1, username := "bob", email, password }]

/-- A search of user names shows the same whatever the password hash and the private e-mail
address. -/
theorem Registry.usernameSearch_hides_private_email :
    allRowsEngine.ReadsNamedColumns ∧
      (bobWith "bob@secret.io" "1f").redacted true = (bobWith "bob@x.io" "2e").redacted true ∧
      "email" ∉ EntitySearch.users.textColumns (SearchQuery.parse "bob in:username") ∧
      ∃ c, EntitySearch.users.compileRequest (some "bob in:username") none none none none =
          .ok c ∧
        ((bobWith "bob@secret.io" "1f").queryUsersWith allRowsEngine c.filter
            (c.params.map .text) c.orderBy (some c.limit) (some c.offset)).map
            (·.map UserRow.toJson) =
          ((bobWith "bob@x.io" "2e").queryUsersWith allRowsEngine c.filter
            (c.params.map .text) c.orderBy (some c.limit) (some c.offset)).map
            (·.map UserRow.toJson) := by
  have hread : "email" ∉ EntitySearch.users.textColumns (SearchQuery.parse "bob in:username") := by
    decide +kernel
  have hsame : (bobWith "bob@secret.io" "1f").redacted true =
      (bobWith "bob@x.io" "2e").redacted true := rfl
  exact ⟨allRowsEngine_readsNamedColumns, hsame, hread,
    Registry.usersSearch_hides_secrets allRowsEngine_readsNamedColumns hsame
      (some "bob in:username") none none none none fun _ => hread⟩

/-- The engine that keeps the rows of a relation meeting the conditions of the users search
`secret`, reading no text as a number. -/
def secretSearchEngine : Engine :=
  filterEngine (fun bs => .text bs) (EntitySearch.users.conditions (SearchQuery.parse "secret"))

/-- A query through an engine that filters by fixed conditions gives the same whatever its
order. -/
theorem Registry.queryUsersWith_filterEngine (num : List UInt8 → SqlValue) (cs : List Condition)
    (r : Registry) (filter : String) (params : List Parameter) (orderBy : String)
    (limit offset : Option Int) :
    r.queryUsersWith (filterEngine num cs) filter params orderBy limit offset =
      r.queryUsersWith (filterEngine num cs) filter params "" limit offset := rfl

/-- Mapping rows keeps how many there are. -/
theorem toOption_map_length {ε α β : Type} (f : α → β) (x : Except ε (List α)) :
    (x.map (·.map f)).toOption.map List.length = x.toOption.map List.length := by
  cases x <;> simp [Except.map, Except.toOption]

/-- A users search's free text is matched against private e-mail addresses too: registries
differing only in one answer `secret` differently. -/
theorem Registry.privateEmail_found_by_search :
    (bobWith "bob@secret.io" "").redacted true = (bobWith "bob@x.io" "").redacted true ∧
      ∃ c, EntitySearch.users.compileRequest (some "secret") none none none none = .ok c ∧
        ((bobWith "bob@secret.io" "").queryUsersWith secretSearchEngine c.filter
            (c.params.map .text) c.orderBy (some c.limit) (some c.offset)).map
            (·.map UserRow.toJson) ≠
          ((bobWith "bob@x.io" "").queryUsersWith secretSearchEngine c.filter
            (c.params.map .text) c.orderBy (some c.limit) (some c.offset)).map
            (·.map UserRow.toJson) := by
  obtain ⟨orderBy, hc⟩ := EntitySearch.compile_eq_ok EntitySearch.users_valid
    (SearchQuery.parse "secret") (PageRequest.ofParams none none) (SortRequest.ofParams none none)
  refine ⟨rfl, _, hc, fun h => ?_⟩
  have hlen := congrArg (fun x => x.toOption.map List.length) h
  simp only [toOption_map_length] at hlen
  unfold secretSearchEngine at hlen
  rw [Registry.queryUsersWith_filterEngine _ _ (bobWith "bob@secret.io" ""),
    Registry.queryUsersWith_filterEngine _ _ (bobWith "bob@x.io" "")] at hlen
  -- the address that holds the word is found, the other is not
  have hfound : ((bobWith "bob@secret.io" "").queryUsersWith secretSearchEngine
      (conjunction (EntitySearch.users.conditions (SearchQuery.parse "secret"))).fragment
      ((conjunction (EntitySearch.users.conditions (SearchQuery.parse "secret"))).params.map .text)
      "" (some 100) (some 0)).toOption.map List.length = some 1 := by
    decide +kernel
  have hmissed : ((bobWith "bob@x.io" "").queryUsersWith secretSearchEngine
      (conjunction (EntitySearch.users.conditions (SearchQuery.parse "secret"))).fragment
      ((conjunction (EntitySearch.users.conditions (SearchQuery.parse "secret"))).params.map .text)
      "" (some 100) (some 0)).toOption.map List.length = some 0 := by
    decide +kernel
  unfold secretSearchEngine at hfound hmissed
  have hwindow : clampPage (PageRequest.ofParams none none).page
      (PageRequest.ofParams none none).perPage EntitySearch.users.maxPageSize = (100, 0) := by
    decide
  simp only [hwindow, hfound, hmissed] at hlen
  cases hlen

end PackageRegistry.Store
