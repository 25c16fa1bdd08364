import Mathlib
import PackageRegistry.Proofs.Store.ViewRows
import PackageRegistry.Proofs.Sql.TextBytes
/-!
# Each record once

The packages view has a row per tag of a package, and its query asks for distinct rows; the
users view has one row per user. So, with an engine answering as SQLite documents and keyed
tables, a search shows each record at most once (`Registry.searches_show_records_once`).
-/

namespace PackageRegistry.Sql

/-- A stored text reads back as itself. -/
@[simp] theorem SqlValue.text?_ofString (s : String) : (SqlValue.ofString s).text? = some s := by
  have hbytes : (⟨s.toUTF8.toList.toArray⟩ : ByteArray) = s.toByteArray := by
    rw [ByteArray.toList_eq_data, String.toUTF8_eq_toByteArray]
  simp only [SqlValue.ofString, SqlValue.text?, stringOfBytes, hbytes, String.fromUTF8?,
    dif_pos s.isValidUTF8]
  rfl

end PackageRegistry.Sql

namespace PackageRegistry.Store

open PackageRegistry.Sql

/-! ## What a query selects -/

/-- What SQLite documents for a `SELECT` of a relation's columns: rows of the relation, none
more than once, and under `DISTINCT` no two equal. -/
def Engine.SelectsRows (engine : Engine) (db : Database) (rel : Relation) : Prop :=
  ∀ tail binds rows, (engine db rel tail binds).2 = .ok rows →
    ∃ picked : List (List SqlValue), picked.Subperm rel.rows ∧ rows = picked.map rel.project ∧
      (rel.distinct = true → rows.Nodup)

/-- A success with failures renamed was that success. -/
theorem eq_ok_of_mapError {ε ε' α : Type} {f : ε → ε'} {x : Except ε α} {a : α}
    (h : x.mapError f = .ok a) : x = .ok a := by
  cases x with
  | error e => cases h
  | ok b => cases h; rfl

/-- A query over a view gives nothing for a window beyond the largest integer, an error for a
filter that does not bind, else the connection's answer. -/
theorem queryViewWith_cases (filter : String) (params : List Parameter) (orderBy : String)
    (limit offset : Option Int) :
    (∀ run db, (queryViewWith run db filter params orderBy limit offset).2 = .ok []) ∨
    (∃ e, ∀ run db, (queryViewWith run db filter params orderBy limit offset).2 = .error e) ∨
    ∃ fragment binds window, boundFilter filter params = .ok (fragment, binds) ∧
      ∀ run db, (queryViewWith run db filter params orderBy limit offset).2 =
        (run (queryTail fragment orderBy limit offset) (binds ++ window)).2.mapError
          .queryFailed := by
  unfold queryViewWith
  split
  · exact .inl fun _ _ => rfl
  · cases hb : boundFilter filter params with
    | error err =>
      rw [boundFilter] at hb
      simp only [hb]
      exact .inr (.inl ⟨_, fun _ _ => rfl⟩)
    | ok fb =>
      obtain ⟨fragment, binds⟩ := fb
      rw [boundFilter] at hb
      simp only [hb]
      exact .inr (.inr ⟨fragment, binds, _, rfl, fun _ _ => rfl⟩)

/-- A query over a view that gives rows gives nothing, for a window beyond the largest integer,
or what the connection answers for some text and binds. -/
theorem queryViewWith_eq_ok {run : ViewRunner} {db : Database} {filter : String}
    {params : List Parameter} {orderBy : String} {limit offset : Option Int}
    {rows : List (List SqlValue)}
    (h : (queryViewWith run db filter params orderBy limit offset).2 = .ok rows) :
    rows = [] ∨ ∃ tail binds, (run tail binds).2 = .ok rows := by
  rcases queryViewWith_cases filter params orderBy limit offset with
    hnone | ⟨e, herr⟩ | ⟨fragment, binds, window, -, hrun⟩
  · rw [hnone] at h
    cases h
    exact .inl rfl
  · rw [herr] at h
    cases h
  · rw [hrun] at h
    exact .inr ⟨_, _, eq_ok_of_mapError h⟩

/-- The rows a query over a view returns through an engine that selects rows. -/
theorem queryViewWith_selects {engine : Engine} {db : Database} {rel : Relation}
    (h : engine.SelectsRows db rel) {filter : String} {params : List Parameter} {orderBy : String}
    {limit offset : Option Int} {rows : List (List SqlValue)}
    (hq : (queryViewWith (engine db rel) db filter params orderBy limit offset).2 = .ok rows) :
    ∃ picked : List (List SqlValue), picked.Subperm rel.rows ∧ rows = picked.map rel.project ∧
      (rel.distinct = true → rows.Nodup) := by
  rcases queryViewWith_eq_ok hq with rfl | ⟨tail, binds, hrun⟩
  · exact ⟨[], List.nil_subperm, rfl, fun _ => List.nodup_nil⟩
  · exact h tail binds rows hrun

/-! ## Keys -/

/-- The keys the searches and the counts rely on: no two users share an id, and no two packages
an id or a name. -/
structure Registry.Keyed (r : Registry) : Prop where
  userIds : (r.users.map (·.id)).Nodup
  packageIds : (r.packages.map (·.id)).Nodup
  packageNames : (r.packages.map (·.name)).Nodup

/-- The owner a package has is one of the users, with the package's owner id. -/
theorem Registry.ownerOf?_spec {r : Registry} {p : PackageRecord} {u : UserRecord}
    (h : r.ownerOf? p = some u) : u ∈ r.users ∧ u.id = p.ownerId := by
  unfold Registry.ownerOf? at h
  exact ⟨List.mem_of_find?_eq_some h, by simpa using List.find?_some h⟩

/-- A package's returned row has its name. -/
@[simp] theorem Registry.packageResult_name (r : Registry) (p : PackageRecord) (owner : UserRecord) :
    (r.packageResult p owner).name = p.name := by
  simp [Registry.packageResult, PackageRow.ofValues, Registry.packagesView_project,
    Registry.packageViewRow]

/-- A package's returned row has its owner's username. -/
@[simp] theorem Registry.packageResult_ownerUsername (r : Registry) (p : PackageRecord)
    (owner : UserRecord) : (r.packageResult p owner).ownerUsername = owner.username := by
  simp [Registry.packageResult, PackageRow.ofValues, Registry.packagesView_project,
    Registry.packageViewRow]

/-! ## The rows of a query -/

/-- A mapped success is the map of a success. -/
theorem exists_of_map_eq_ok {ε α β : Type} {f : α → β} {x : Except ε α} {b : β}
    (h : x.map f = .ok b) : ∃ a, x = .ok a ∧ b = f a := by
  cases x with
  | error e => cases h
  | ok a =>
    cases h
    exact ⟨a, rfl, rfl⟩

/-- Items picked from a list whose images are distinct have distinct images. -/
theorem nodup_map_of_subperm {α β : Type} (f : α → β) {l₁ l₂ : List α} (h : l₁.Subperm l₂)
    (hl : (l₂.map f).Nodup) : (l₁.map f).Nodup := by
  obtain ⟨l, hperm, hsub⟩ := h
  exact (hperm.map f).nodup_iff.mp ((hsub.map f).nodup hl)

/-- A query of the packages view returns, from any of its rows, the columns of the row of a
package and its owner without a tag. -/
theorem Registry.project_of_mem_packageRows {r : Registry} {vr : List SqlValue}
    (h : vr ∈ r.packageRows) :
    ∃ p ∈ r.packages, ∃ owner, r.ownerOf? p = some owner ∧
      r.packagesView.project vr = r.packagesView.project (r.packageViewRow p owner .null) := by
  obtain ⟨p, hp, owner, ho, tag, rfl⟩ := Registry.exists_of_mem_packageRows h
  exact ⟨p, hp, owner, ho, r.project_packageViewRow p owner tag⟩

/-- What a packages query returns through an engine that selects rows: the distinct returned
columns of rows of packages and their owners. -/
theorem Registry.queryPackagesWith_outputs {engine : Engine} {r : Registry}
    (h : engine.SelectsRows r.database r.packagesView) {filter : String}
    {params : List Parameter} {orderBy : String} {limit offset : Option Int}
    {rows : List PackageRow}
    (hq : r.queryPackagesWith engine filter params orderBy limit offset = .ok rows) :
    ∃ outs : List (List SqlValue), rows = outs.map PackageRow.ofValues ∧ outs.Nodup ∧
      ∀ out ∈ outs, ∃ p ∈ r.packages, ∃ owner, r.ownerOf? p = some owner ∧
        out = r.packagesView.project (r.packageViewRow p owner .null) := by
  obtain ⟨outs, hv, rfl⟩ := exists_of_map_eq_ok hq
  obtain ⟨picked, hsub, rfl, hnodup⟩ := queryViewWith_selects h hv
  refine ⟨_, rfl, hnodup rfl, ?_⟩
  intro out hout
  obtain ⟨vr, hvr, rfl⟩ := List.mem_map.mp hout
  exact Registry.project_of_mem_packageRows (hsub.subset hvr)

/-- Two returned rows of packages with one id are the same row, when package and user ids are
keys. -/
theorem Registry.packageOutput_eq_of_id {r : Registry} (hkeys : r.Keyed) {out out' : List SqlValue}
    (h : ∃ p ∈ r.packages, ∃ owner, r.ownerOf? p = some owner ∧
      out = r.packagesView.project (r.packageViewRow p owner .null))
    (h' : ∃ p ∈ r.packages, ∃ owner, r.ownerOf? p = some owner ∧
      out' = r.packagesView.project (r.packageViewRow p owner .null))
    (hid : (PackageRow.ofValues out).id = (PackageRow.ofValues out').id) : out = out' := by
  obtain ⟨p, hp, owner, ho, rfl⟩ := h
  obtain ⟨p', hp', owner', ho', rfl⟩ := h'
  have hpp : p = p' := List.inj_on_of_nodup_map hkeys.packageIds hp hp' hid
  subst hpp
  have hoo : owner = owner' := Option.some.inj (ho.symm.trans ho')
  rw [hoo]

/-- What a users query returns through an engine that selects rows: the returned columns of the
rows of some of the users, none twice. -/
theorem Registry.queryUsersWith_outputs {engine : Engine} {r : Registry}
    (h : engine.SelectsRows r.database r.usersView) {filter : String}
    {params : List Parameter} {orderBy : String} {limit offset : Option Int}
    {rows : List UserRow}
    (hq : r.queryUsersWith engine filter params orderBy limit offset = .ok rows) :
    ∃ picked : List (List SqlValue), picked.Subperm (r.users.map r.userViewRow) ∧
      rows = picked.map fun vr => UserRow.ofValues (r.usersView.project vr) := by
  obtain ⟨outs, hv, rfl⟩ := exists_of_map_eq_ok hq
  obtain ⟨picked, hsub, rfl, -⟩ := queryViewWith_selects h hv
  have hrows : r.usersView.rows = r.users.map r.userViewRow := r.userRows_eq
  exact ⟨picked, hrows ▸ hsub, by rw [List.map_map]; rfl⟩

/-! ## Download counts -/

/-- Pairs made from items with distinct keys give, looked up at an item's key, the item's value. -/
theorem lookup_map_pair {α β γ : Type} [BEq β] [LawfulBEq β] {key : α → β} {val : α → γ} :
    ∀ {l : List α}, (l.map key).Nodup → ∀ {a : α}, a ∈ l →
      (l.map fun x => (key x, val x)).lookup (key a) = some (val a)
  | [], _, _, h => absurd h List.not_mem_nil
  | x :: l, hnodup, a, h => by
    rw [List.map_cons, List.nodup_cons] at hnodup
    rw [List.map_cons, List.lookup_cons]
    rcases List.mem_cons.mp h with rfl | ha
    · simp
    · have hne : key a ≠ key x := fun he => hnodup.1 (he ▸ List.mem_map_of_mem ha)
      rw [beq_false_of_ne hne, lookup_map_pair hnodup.2 ha]

/-- With distinct package ids, grouping the outer join by package id and name counts each
package's downloads: the counts are those of the packages named, in order of name. -/
theorem Registry.packageDownloads_eq {r : Registry} (hids : (r.packages.map (·.id)).Nodup)
    (names : Option (List String)) :
    r.packageDownloads names =
      ((r.packages.filter fun p => names.all (·.contains p.name)).mergeSort
        fun a b => decide (a.name ≤ b.name)).map fun p => (p.name, r.downloadCount p.id) := by
  let named := r.packages.filter fun p => names.all (·.contains p.name)
  -- the packages named have distinct ids, so each is a group of its own
  have hkeys : (named.map fun p => (p.id, p.name)).Nodup := by
    refine List.Nodup.of_map Prod.fst ?_
    rw [List.map_map]
    exact (List.filter_sublist.map _).nodup hids
  have hcounted : groupCount (fun p : PackageRecord => (p.id, p.name))
      ((leftJoin (fun p => r.downloads.filter (·.packageId == p.id)) r.packages).filter
        fun x => names.all (·.contains x.1.name)) =
      named.map fun p => (p, r.downloadCount p.id) := by
    rw [filter_leftJoin _ (fun p : PackageRecord => names.all (·.contains p.name)),
      groupCount_leftJoin _ _ hkeys]
    rfl
  -- sorting the counts by name sorts the packages by name
  have hsort := @List.map_mergeSort _ _ (fun a b : PackageRecord => decide (a.name ≤ b.name))
    (fun a b : PackageRecord × Nat => decide (a.1.name ≤ b.1.name))
    (fun p => (p, r.downloadCount p.id)) named (fun _ _ _ _ => rfl)
  rw [Registry.packageDownloads, hcounted, ← hsort, List.map_map]
  rfl

/-- The counts by name of all packages, in order of name, when package ids are distinct. -/
theorem Registry.packageDownloads_none {r : Registry} (hids : (r.packages.map (·.id)).Nodup) :
    r.packageDownloads none = (r.packages.mergeSort fun a b => decide (a.name ≤ b.name)).map
      fun p => (p.name, r.downloadCount p.id) := by
  simp [Registry.packageDownloads_eq hids]

/-- With distinct package ids and names, the counts by name give each package its download
count. -/
theorem Registry.lookup_packageDownloads {r : Registry} (hids : (r.packages.map (·.id)).Nodup)
    (hnames : (r.packages.map (·.name)).Nodup) {p : PackageRecord} (hp : p ∈ r.packages) :
    (r.packageDownloads none).lookup p.name = some (r.downloadCount p.id) := by
  have hperm := List.mergeSort_perm r.packages fun a b : PackageRecord => decide (a.name ≤ b.name)
  rw [Registry.packageDownloads_none hids]
  exact lookup_map_pair ((hperm.map _).nodup_iff.mpr hnames) (hperm.mem_iff.mpr hp)

/-- A download of one of a list of distinct ids is counted under exactly one of them. -/
theorem sum_map_ite_of_nodup {ids : List Int} (hids : ids.Nodup) {a : Int} (ha : a ∈ ids) :
    (ids.map fun i => if a = i then 1 else 0).sum = 1 := by
  rw [List.sum_map_eq_nsmul_single a _ fun i hi _ => if_neg (Ne.symm hi),
    List.count_eq_one_of_mem hids ha]
  simp

/-- Counting, id by id, downloads of distinct ids counts every download once. -/
theorem sum_length_filter_of_nodup {ids : List Int} (hids : ids.Nodup) :
    ∀ ds : List DownloadRecord, (∀ d ∈ ds, d.packageId ∈ ids) →
      (ids.map fun i => (ds.filter (·.packageId == i)).length).sum = ds.length
  | [], _ => by simp
  | d :: ds, hds => by
    have hcons : ∀ i, ((d :: ds).filter (·.packageId == i)).length =
        (ds.filter (·.packageId == i)).length + if d.packageId = i then 1 else 0 := by
      intro i
      by_cases h : d.packageId = i <;> simp [h]
    simp only [hcons, List.sum_map_add]
    rw [sum_length_filter_of_nodup hids ds fun d' hd' => hds d' (List.mem_cons_of_mem d hd'),
      sum_map_ite_of_nodup hids (hds d List.mem_cons_self), List.length_cons]

/-- When every download is of a package and package ids are distinct, the registry's total is
the sum of its counts by name. -/
theorem Registry.totalDownloads_eq_sum {r : Registry} (hids : (r.packages.map (·.id)).Nodup)
    (hrefs : ∀ d ∈ r.downloads, ∃ p ∈ r.packages, p.id = d.packageId) :
    r.totalDownloads = ((r.packageDownloads none).map (·.2)).sum := by
  have hperm := List.mergeSort_perm r.packages fun a b : PackageRecord => decide (a.name ≤ b.name)
  have hsum : ((r.packageDownloads none).map (·.2)).sum =
      ((r.packages.map (·.id)).map fun i => (r.downloads.filter (·.packageId == i)).length).sum := by
    rw [Registry.packageDownloads_none hids, List.map_map, List.map_map]
    exact (hperm.map _).sum_eq
  have hmem : ∀ d ∈ r.downloads, d.packageId ∈ r.packages.map (·.id) := by
    intro d hd
    obtain ⟨p, hp, hid⟩ := hrefs d hd
    exact List.mem_map.mpr ⟨p, hp, hid⟩
  rw [hsum, sum_length_filter_of_nodup hids r.downloads hmem, Registry.totalDownloads]

/-! ## Searches over keyed registries -/

/-- What searches and download counts show through an engine: a packages query returns each
package id at most once, with its owner's name and downloads; a users query each user id at
most once, with packages owned; and the total of downloads is the sum of counts by name. -/
structure Registry.ShowsRecordsOnce (engine : Engine) (r : Registry) : Prop where
  packages : ∀ filter params orderBy limit offset rows,
    r.queryPackagesWith engine filter params orderBy limit offset = .ok rows →
      (rows.map (·.id)).Nodup ∧
      ∀ row ∈ rows, ∃ p ∈ r.packages, ∃ owner ∈ r.users, owner.id = p.ownerId ∧
        row.id = p.id ∧ row.name = p.name ∧ row.ownerUsername = owner.username ∧
        row.downloads = (r.downloads.filter (·.packageId == p.id)).length ∧
        (r.packageDownloads none).lookup row.name =
          some (r.downloads.filter (·.packageId == p.id)).length
  users : ∀ filter params orderBy limit offset rows,
    r.queryUsersWith engine filter params orderBy limit offset = .ok rows →
      (rows.map (·.id)).Nodup ∧
      ∀ row ∈ rows, ∃ u ∈ r.users, row.id = u.id ∧
        row.packagesCount = (r.packages.filter (·.ownerId == u.id)).length
  total : (∀ d ∈ r.downloads, ∃ p ∈ r.packages, p.id = d.packageId) →
    r.totalDownloads = ((r.packageDownloads none).map (·.2)).sum

/-- Every registry keyed by user ids, package ids and package names shows each record once, with
its counts, through an engine selecting rows as SQLite documents. -/
theorem Registry.searches_show_records_once {engine : Engine} {r : Registry} (hkeys : r.Keyed)
    (hpackages : engine.SelectsRows r.database r.packagesView)
    (husers : engine.SelectsRows r.database r.usersView) : r.ShowsRecordsOnce engine where
  packages filter params orderBy limit offset rows hq := by
    obtain ⟨outs, rfl, hnodup, houts⟩ := Registry.queryPackagesWith_outputs hpackages hq
    refine ⟨?_, fun row hrow => ?_⟩
    · rw [List.map_map]
      exact hnodup.map_on fun x hx y hy hid =>
        Registry.packageOutput_eq_of_id hkeys (houts x hx) (houts y hy) hid
    · obtain ⟨out, hout, rfl⟩ := List.mem_map.mp hrow
      obtain ⟨p, hp, owner, ho, rfl⟩ := houts out hout
      obtain ⟨hu, hid⟩ := Registry.ownerOf?_spec ho
      have hname : (r.packageResult p owner).name = p.name := r.packageResult_name p owner
      refine ⟨p, hp, owner, hu, hid, rfl, hname, r.packageResult_ownerUsername p owner, rfl, ?_⟩
      show (r.packageDownloads none).lookup (r.packageResult p owner).name = _
      rw [hname]
      exact Registry.lookup_packageDownloads hkeys.packageIds hkeys.packageNames hp
  users filter params orderBy limit offset rows hq := by
    obtain ⟨picked, hsub, rfl⟩ := Registry.queryUsersWith_outputs husers hq
    refine ⟨?_, fun row hrow => ?_⟩
    · -- the ids of the view's rows are the users' ids, and the query keeps some of those rows
      have hids : (r.users.map r.userViewRow).map
          (fun vr => (UserRow.ofValues (r.usersView.project vr)).id) = r.users.map (·.id) := by
        rw [List.map_map]
        rfl
      rw [List.map_map]
      exact nodup_map_of_subperm _ hsub (hids ▸ hkeys.userIds)
    · obtain ⟨vr, hvr, rfl⟩ := List.mem_map.mp hrow
      obtain ⟨u, hu, rfl⟩ := List.mem_map.mp (hsub.subset hvr)
      exact ⟨u, hu, rfl, rfl⟩
  total := r.totalDownloads_eq_sum hkeys.packageIds

/-- An engine that answers every query over a relation with the returned columns of all of its
rows. -/
def allRowsEngine : Engine := fun db rel _ _ => (db, .ok (rel.rows.map rel.project))

/-- The engine that returns all rows selects rows, on a relation whose returned rows are distinct
when it asks for distinct rows. -/
theorem allRowsEngine_selectsRows {db : Database} {rel : Relation}
    (h : rel.distinct = true → (rel.rows.map rel.project).Nodup) :
    allRowsEngine.SelectsRows db rel := by
  intro tail binds rows hrun
  simp only [allRowsEngine, Except.ok.injEq] at hrun
  subst hrun
  exact ⟨rel.rows, List.Subperm.refl _, rfl, h⟩

/-- A registry of one user owning one package, downloaded twice. -/
def oneOwner : Registry where
  users := [{ id := 1, username := "alice", email := "a@x.io", password := "" }]
  packages := [{ id := 1, name := "alpha", ownerId := 1, latestVersion := "1.0.0" }]
  downloads := [⟨1, 1⟩, ⟨2, 1⟩]

/-- The one-owner registry is keyed, and the engine that returns all rows selects rows of both of
its views, so its searches show each record once. -/
theorem Registry.oneOwner_shows_records_once :
    oneOwner.Keyed ∧ allRowsEngine.SelectsRows oneOwner.database oneOwner.packagesView ∧
      allRowsEngine.SelectsRows oneOwner.database oneOwner.usersView ∧
      oneOwner.ShowsRecordsOnce allRowsEngine := by
  have hkeys : oneOwner.Keyed := ⟨by decide, by decide, by decide⟩
  have hpackages : allRowsEngine.SelectsRows oneOwner.database oneOwner.packagesView :=
    allRowsEngine_selectsRows fun _ => by
      show (oneOwner.packageRows.map _).Nodup
      simp [Registry.packageRows_eq, oneOwner, Registry.ownerOf?, Registry.packageViewRows,
        Registry.tagsOf]
  have husers : allRowsEngine.SelectsRows oneOwner.database oneOwner.usersView :=
    allRowsEngine_selectsRows fun h => absurd h (by simp [Registry.usersView])
  exact ⟨hkeys, hpackages, husers, Registry.searches_show_records_once hkeys hpackages husers⟩

end PackageRegistry.Store
