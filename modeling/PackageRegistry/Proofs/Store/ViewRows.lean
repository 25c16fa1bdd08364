import Mathlib
import PackageRegistry.Proofs.Store.Selection
import PackageRegistry.Proofs.Store.Joins
/-!
# The rows of the views

Every row of the packages view is a package's whose owner exists, with one of its tags or none,
and the users view has each user's row. A query returning the rows that meet a test on the
record returns exactly the rows of the records meeting it.
-/

namespace PackageRegistry.Store

open PackageRegistry.Sql

/-! ## Packages -/

/-- The number of downloads of a package: the downloads with its id. -/
def Registry.downloadCount (r : Registry) (packageId : Int) : Nat :=
  (r.downloads.filter (·.packageId == packageId)).length

/-- The count grouped over the left join gives each package its number of downloads. -/
theorem Registry.countedPackages_eq (r : Registry) :
    r.countedPackages = r.packages.map fun p => (p, r.downloadCount p.id) :=
  groupCount_leftJoin_zipIdx
    (fun p : PackageRecord => r.downloads.filter fun d : DownloadRecord => d.packageId == p.id)
    r.packages

/-- The owner of a package: the first user with its owner id, none when no user has it. -/
def Registry.ownerOf? (r : Registry) (p : PackageRecord) : Option UserRecord :=
  r.users.find? (·.id == p.ownerId)

/-- The row of the packages view for a package, its owner and a tag (`NULL` for none). -/
def Registry.packageViewRow (r : Registry) (p : PackageRecord) (owner : UserRecord)
    (tag : SqlValue) : List SqlValue :=
  [.integer p.id, .ofString p.name, .integer p.ownerId, .ofString p.latestVersion,
   .ofString p.publishedAt.storageText, .ofString p.lastReleasedAt.storageText,
   optText p.description, optText p.license, optText p.homepageUrl,
   optText p.repositoryUrl, optText p.documentationUrl, optText p.bugsUrl,
   optText p.enginesGo, optText p.os, .integer (r.downloadCount p.id),
   .ofString owner.username, tag]

/-- The view rows of a package whose owner is known: one per tag, or one without a tag. -/
def Registry.packageViewRows (r : Registry) (p : PackageRecord) (owner : UserRecord) :
    List (List SqlValue) :=
  match r.tagsOf p.id with
  | [] => [r.packageViewRow p owner .null]
  | tags => tags.map fun t => r.packageViewRow p owner (.ofString t)

/-- The packages view, package by package: nothing for a package without an owner, else its
rows with its owner, one per tag. -/
theorem Registry.packageRows_eq (r : Registry) :
    r.packageRows = r.packages.flatMap fun p =>
      match r.ownerOf? p with
      | none => []
      | some owner => r.packageViewRows p owner := by
  rw [Registry.packageRows, Registry.countedPackages_eq, innerJoin, List.flatMap_map,
    leftJoin_flatMap, List.map_flatMap]
  refine List.flatMap_congr fun p _ => ?_
  -- the owner is looked up by id, so a package has one owner row or none
  change List.map _ (leftJoin _ (((r.ownerOf? p).toList).map _)) = _
  cases r.ownerOf? p with
  | none => rfl
  | some owner =>
    -- one row per tag, or one with `NULL` for a package without tags
    simp only [Option.toList_some, List.map_singleton, leftJoin, List.flatMap_cons,
      List.flatMap_nil, List.append_nil, Registry.packageViewRows]
    cases r.tagsOf p.id with
    | nil => rfl
    | cons t ts =>
      rw [List.map_map]
      rfl

/-- A package with an owner has a view row. -/
theorem Registry.packageViewRows_ne_nil (r : Registry) (p : PackageRecord) (owner : UserRecord) :
    ∃ tag, r.packageViewRow p owner tag ∈ r.packageViewRows p owner := by
  unfold Registry.packageViewRows
  cases h : r.tagsOf p.id with
  | nil => exact ⟨.null, List.mem_singleton_self _⟩
  | cons t ts => exact ⟨.ofString t, List.mem_map_of_mem List.mem_cons_self⟩

/-- Each view row of a package is its row with some tag. -/
theorem Registry.exists_of_mem_packageViewRows {r : Registry} {p : PackageRecord}
    {owner : UserRecord} {vr : List SqlValue} (h : vr ∈ r.packageViewRows p owner) :
    ∃ tag, vr = r.packageViewRow p owner tag := by
  unfold Registry.packageViewRows at h
  split at h
  · exact ⟨.null, List.mem_singleton.mp h⟩
  · obtain ⟨t, -, rfl⟩ := List.mem_map.mp h
    exact ⟨.ofString t, rfl⟩

/-- Every row of the packages view is the row of a package whose owner exists, with a tag. -/
theorem Registry.exists_of_mem_packageRows {r : Registry} {vr : List SqlValue}
    (h : vr ∈ r.packageRows) :
    ∃ p ∈ r.packages, ∃ owner, r.ownerOf? p = some owner ∧
      ∃ tag, vr = r.packageViewRow p owner tag := by
  rw [Registry.packageRows_eq, List.mem_flatMap] at h
  obtain ⟨p, hp, hvr⟩ := h
  cases ho : r.ownerOf? p with
  | none =>
    rw [ho] at hvr
    cases hvr
  | some owner =>
    rw [ho] at hvr
    exact ⟨p, hp, owner, ho, Registry.exists_of_mem_packageViewRows hvr⟩

/-- Every package whose owner exists has a row in the packages view. -/
theorem Registry.exists_packageViewRow_mem {r : Registry} {p : PackageRecord}
    {owner : UserRecord} (hp : p ∈ r.packages) (ho : r.ownerOf? p = some owner) :
    ∃ tag, r.packageViewRow p owner tag ∈ r.packageRows := by
  obtain ⟨tag, htag⟩ := r.packageViewRows_ne_nil p owner
  refine ⟨tag, ?_⟩
  rw [Registry.packageRows_eq, List.mem_flatMap]
  exact ⟨p, hp, by rw [ho]; exact htag⟩

/-- The row a query of the packages view returns for a package and its owner. -/
def Registry.packageResult (r : Registry) (p : PackageRecord) (owner : UserRecord) : PackageRow :=
  PackageRow.ofValues (r.packagesView.project (r.packageViewRow p owner .null))

/-- A packages view query returns a row's columns by position: all but owner id and tag, the
owner's name and downloads forward. -/
theorem Registry.packagesView_project (r : Registry) (vr : List SqlValue) :
    r.packagesView.project vr = [vr.getD 0 .null, vr.getD 1 .null, vr.getD 15 .null,
      vr.getD 14 .null, vr.getD 3 .null, vr.getD 4 .null, vr.getD 5 .null, vr.getD 6 .null,
      vr.getD 7 .null, vr.getD 8 .null, vr.getD 9 .null, vr.getD 10 .null, vr.getD 11 .null,
      vr.getD 12 .null, vr.getD 13 .null] := rfl

/-- A query returns the same columns of a package whatever the tag of the view row. -/
theorem Registry.project_packageViewRow (r : Registry) (p : PackageRecord) (owner : UserRecord)
    (tag : SqlValue) :
    r.packagesView.project (r.packageViewRow p owner tag) =
      r.packagesView.project (r.packageViewRow p owner .null) := by
  rw [Registry.packagesView_project, Registry.packagesView_project]
  rfl

/-- A package's returned row has its id. -/
@[simp] theorem Registry.packageResult_id (r : Registry) (p : PackageRecord) (owner : UserRecord) :
    (r.packageResult p owner).id = p.id := rfl

/-- A package's returned row has its download count. -/
@[simp] theorem Registry.packageResult_downloads (r : Registry) (p : PackageRecord)
    (owner : UserRecord) : (r.packageResult p owner).downloads = r.downloadCount p.id := rfl

/-- A query returning the packages view rows meeting a test that reads only the package returns
exactly the rows of the packages, with an owner, meeting it. -/
theorem Registry.mem_packageResults {r : Registry} {P : List SqlValue → Prop}
    {Q : PackageRecord → Prop}
    (hPQ : ∀ p ∈ r.packages, ∀ owner tag, P (r.packageViewRow p owner tag) ↔ Q p)
    {rows : List (List SqlValue)}
    (hrows : ∀ out, out ∈ rows ↔ ∃ vr ∈ r.packageRows, P vr ∧ out = r.packagesView.project vr)
    (row : PackageRow) :
    row ∈ rows.map PackageRow.ofValues ↔
      ∃ p ∈ r.packages, ∃ owner, r.ownerOf? p = some owner ∧ Q p ∧ row = r.packageResult p owner := by
  simp only [List.mem_map, hrows]
  constructor
  · rintro ⟨out, ⟨vr, hvr, hP, rfl⟩, rfl⟩
    obtain ⟨p, hp, owner, ho, tag, rfl⟩ := Registry.exists_of_mem_packageRows hvr
    exact ⟨p, hp, owner, ho, (hPQ p hp owner tag).mp hP, by
      rw [Registry.project_packageViewRow]; rfl⟩
  · rintro ⟨p, hp, owner, ho, hQ, rfl⟩
    obtain ⟨tag, htag⟩ := Registry.exists_packageViewRow_mem hp ho
    exact ⟨_, ⟨_, htag, (hPQ p hp owner tag).mpr hQ, rfl⟩, by
      rw [Registry.project_packageViewRow]; rfl⟩

/-! ## Users -/

/-- The number of packages a user owns. -/
def Registry.ownedCount (r : Registry) (userId : Int) : Nat :=
  (r.packages.filter (·.ownerId == userId)).length

/-- The count grouped over the left join gives each user the number of packages it owns. -/
theorem Registry.countedUsers_eq (r : Registry) :
    r.countedUsers = r.users.map fun u => (u, r.ownedCount u.id) :=
  groupCount_leftJoin_zipIdx
    (fun u : UserRecord => r.packages.filter fun p : PackageRecord => p.ownerId == u.id) r.users

/-- The row of the users view for a user: its columns, packages owned, accounts and key. -/
def Registry.userViewRow (r : Registry) (u : UserRecord) : List SqlValue :=
  let social := r.socials.find? (·.userId == u.id)
  let key := r.apiKeys.find? (·.userId == u.id)
  [.integer u.id, optText u.name, .integer (r.ownedCount u.id),
   .ofString u.joinedAt.storageText, .ofString u.email, .integer (if u.isPublicEmail then 1 else 0),
   .ofString u.username, .ofString u.password, optText u.avatar, optText u.url,
   optText u.organization, optText u.location, optText (social.bind (·.github)),
   optText (social.bind (·.twitter)), optText (social.bind (·.stackOverflow)),
   optText (social.bind (·.linkedin)), optText (key.map (·.apiKey))]

/-- The users view has one row per user, in order. -/
theorem Registry.userRows_eq (r : Registry) : r.userRows = r.users.map r.userViewRow := by
  -- social accounts and keys are looked up by user id: the joins pair, never multiply
  rw [Registry.userRows, Registry.countedUsers_eq, leftJoin_toList, leftJoin_toList,
    List.map_map, List.map_map, List.map_map]
  rfl

/-- A query of the users view returns every column of a row, in order. -/
theorem Registry.usersView_project (r : Registry) (vr : List SqlValue) :
    r.usersView.project vr = [vr.getD 0 .null, vr.getD 1 .null, vr.getD 2 .null,
      vr.getD 3 .null, vr.getD 4 .null, vr.getD 5 .null, vr.getD 6 .null, vr.getD 7 .null,
      vr.getD 8 .null, vr.getD 9 .null, vr.getD 10 .null, vr.getD 11 .null, vr.getD 12 .null,
      vr.getD 13 .null, vr.getD 14 .null, vr.getD 15 .null, vr.getD 16 .null] := rfl

/-- The row a query of the users view returns for a user. -/
def Registry.userResult (r : Registry) (u : UserRecord) : UserRow :=
  UserRow.ofValues (r.usersView.project (r.userViewRow u))

/-- A user's returned row has its id. -/
@[simp] theorem Registry.userResult_id (r : Registry) (u : UserRecord) :
    (r.userResult u).id = u.id := rfl

/-- A user's returned row has the number of packages it owns. -/
@[simp] theorem Registry.userResult_packagesCount (r : Registry) (u : UserRecord) :
    (r.userResult u).packagesCount = r.ownedCount u.id := rfl

/-- A query returning the users view rows meeting a test that reads only the user returns exactly
the rows of the users meeting it. -/
theorem Registry.mem_userResults {r : Registry} {P : List SqlValue → Prop}
    {Q : UserRecord → Prop} (hPQ : ∀ u ∈ r.users, P (r.userViewRow u) ↔ Q u)
    {rows : List (List SqlValue)}
    (hrows : ∀ out, out ∈ rows ↔ ∃ vr ∈ r.userRows, P vr ∧ out = r.usersView.project vr)
    (row : UserRow) :
    row ∈ rows.map UserRow.ofValues ↔ ∃ u ∈ r.users, Q u ∧ row = r.userResult u := by
  simp only [List.mem_map, hrows, Registry.userRows_eq]
  constructor
  · rintro ⟨out, ⟨vr, ⟨u, hu, rfl⟩, hP, rfl⟩, rfl⟩
    exact ⟨u, hu, (hPQ u hu).mp hP, rfl⟩
  · rintro ⟨u, hu, hQ, rfl⟩
    exact ⟨_, ⟨_, ⟨u, hu, rfl⟩, (hPQ u hu).mpr hQ, rfl⟩, rfl⟩

/-! ## Searches by one bound -/

section searches

open PackageRegistry.Search

variable {engine : Engine} {num : List UInt8 → SqlValue} {r : Registry} {k column : String}
  {α : Type} {write : α → String}

/-- A packages search of one bound on a column ordered as `ord p` says returns exactly the rows of
the packages the bound admits. -/
theorem Registry.packagesSearch_bound
    (hk : (k, ⟨column, .relational⟩) ∈ EntitySearch.packages.qualifiers) (hkey : KeyText k)
    (hw : ∀ a, PlainOperand (write a)) {ord : PackageRecord → α → Ordering}
    (hcmp : ∀ p ∈ r.packages, ∀ owner tag op a,
      r.packagesView.compareAt num (r.packageViewRow p owner tag) column op (write a) =
        some (op.accepts (ord p a)))
    (b : Bound α) (sort order page perPage : Option String)
    (h : engine.Answers num r.database r.packagesView ((b.value write).condition? column).toList) :
    ∃ c, EntitySearch.packages.compileRequest (some (k ++ ":" ++ b.text write)) sort order page
        perPage = .ok c ∧
      ∃ rows, r.queryPackagesWith engine c.filter (c.params.map .text) c.orderBy none none =
          .ok rows ∧
        ∀ row, row ∈ rows ↔ ∃ p ∈ r.packages, ∃ owner, r.ownerOf? p = some owner ∧
          b.admits (ord p) = true ∧ row = r.packageResult p owner := by
  have hsorts : ∀ c ∈ EntitySearch.packages.sortColumns.columns,
      c ∈ r.packagesView.columnNames :=
    show ∀ c ∈ EntitySearch.packages.sortColumns.columns, c ∈ packageColumns.map (·.name) by
      decide
  obtain ⟨c, hc, rows, hq, hrows⟩ := compileRequest_bound_selects EntitySearch.packages_valid
    (by decide) hk hkey rfl hw b sort order page perPage hsorts h
  exact ⟨c, hc, rows.map PackageRow.ofValues, by rw [Registry.queryPackagesWith, hq]; rfl,
    Registry.mem_packageResults (fun p hp owner tag => holds_condition?_iff (hcmp p hp owner tag) b)
      hrows⟩

/-- A users search whose one qualifier bounds a column ordered as `ord u` says returns exactly
the rows of the users whose order the bound admits. -/
theorem Registry.usersSearch_bound
    (hk : (k, ⟨column, .relational⟩) ∈ EntitySearch.users.qualifiers) (hkey : KeyText k)
    (hw : ∀ a, PlainOperand (write a)) {ord : UserRecord → α → Ordering}
    (hcmp : ∀ u ∈ r.users, ∀ op a,
      r.usersView.compareAt num (r.userViewRow u) column op (write a) =
        some (op.accepts (ord u a)))
    (b : Bound α) (sort order page perPage : Option String)
    (h : engine.Answers num r.database r.usersView ((b.value write).condition? column).toList) :
    ∃ c, EntitySearch.users.compileRequest (some (k ++ ":" ++ b.text write)) sort order page
        perPage = .ok c ∧
      ∃ rows, r.queryUsersWith engine c.filter (c.params.map .text) c.orderBy none none =
          .ok rows ∧
        ∀ row, row ∈ rows ↔ ∃ u ∈ r.users, b.admits (ord u) = true ∧ row = r.userResult u := by
  have hsorts : ∀ c ∈ EntitySearch.users.sortColumns.columns, c ∈ r.usersView.columnNames :=
    show ∀ c ∈ EntitySearch.users.sortColumns.columns, c ∈ userColumns.map (·.name) by decide
  obtain ⟨c, hc, rows, hq, hrows⟩ := compileRequest_bound_selects EntitySearch.users_valid
    (by decide) hk hkey rfl hw b sort order page perPage hsorts h
  exact ⟨c, hc, rows.map UserRow.ofValues, by rw [Registry.queryUsersWith, hq]; rfl,
    Registry.mem_userResults (fun u hu => holds_condition?_iff (hcmp u hu) b) hrows⟩

end searches

end PackageRegistry.Store
