import Mathlib
import PackageRegistry.Store.Joins
/-!
# Joins and counts

A left join keeps every row, with `NULL`s when it matches nothing; through a lookup that finds
at most one row it is a map. Grouped by a key that tells its left rows apart, a left join counts
each row's matches (`groupCount_leftJoin`): what is joined after the count cannot change it.
-/

namespace PackageRegistry.Store

variable {α β κ : Type}

/-! ## Left joins -/

/-- A left join of several rows is the left joins of each, one after the other. -/
theorem leftJoin_cons (matching : α → List β) (a : α) (rows : List α) :
    leftJoin matching (a :: rows) = leftJoin matching [a] ++ leftJoin matching rows := by
  simp only [leftJoin, List.flatMap_cons, List.flatMap_nil, List.append_nil]

/-- A row matching nothing is kept once, with `NULL`s. -/
theorem leftJoin_singleton_of_nil {matching : α → List β} {a : α} (h : matching a = []) :
    leftJoin matching [a] = [(a, none)] := by
  simp only [leftJoin, List.flatMap_cons, List.flatMap_nil, List.append_nil, h]

/-- A row with matches is paired with each of them, in order. -/
theorem leftJoin_singleton_of_cons {matching : α → List β} {a : α} {b : β} {bs : List β}
    (h : matching a = b :: bs) :
    leftJoin matching [a] = (a, some b) :: bs.map fun b => (a, some b) := by
  simp only [leftJoin, List.flatMap_cons, List.flatMap_nil, List.append_nil, h, List.map_cons]

/-- Every row of a left join has a joined row's left part. -/
theorem fst_mem_of_mem_leftJoin {matching : α → List β} {rows : List α} {x : α × Option β}
    (h : x ∈ leftJoin matching rows) : x.1 ∈ rows := by
  obtain ⟨a, ha, hx⟩ := List.mem_flatMap.mp h
  split at hx
  · rw [List.mem_singleton.mp hx]
    exact ha
  · obtain ⟨b, -, rfl⟩ := List.mem_map.mp hx
    exact ha

/-- Keeping the rows of a left join by their left part is joining the rows kept. -/
theorem filter_leftJoin (matching : α → List β) (keep : α → Bool) (rows : List α) :
    (leftJoin matching rows).filter (fun x => keep x.1) =
      leftJoin matching (rows.filter keep) := by
  induction rows with
  | nil => rfl
  | cons a rows ih =>
    -- the rows joined to `a` all have left part `a`: they are kept or dropped together
    have hfst : ∀ x ∈ leftJoin matching [a], x.1 = a := fun x hx =>
      List.mem_singleton.mp (fst_mem_of_mem_leftJoin hx)
    rw [leftJoin_cons, List.filter_append, ih]
    by_cases hkeep : keep a = true
    · rw [List.filter_cons_of_pos hkeep, leftJoin_cons matching a (rows.filter keep)]
      rw [List.filter_eq_self.mpr fun x hx => by rw [hfst x hx]; exact hkeep]
    · rw [List.filter_cons_of_neg hkeep, List.filter_eq_nil_iff.mpr fun x hx => by
        rw [hfst x hx]; exact hkeep, List.nil_append]

/-- A left join through a lookup that finds at most one row pairs each row with what it
finds. -/
theorem leftJoin_toList (find : α → Option β) (rows : List α) :
    leftJoin (fun a => (find a).toList) rows = rows.map fun a => (a, find a) := by
  induction rows with
  | nil => rfl
  | cons a rows ih =>
    rw [leftJoin_cons, ih, List.map_cons]
    cases h : find a with
    | none => rw [leftJoin_singleton_of_nil (by rw [h]; rfl)]; rfl
    | some b => rw [leftJoin_singleton_of_cons (by rw [h]; rfl)]; rfl

/-- Left joining the rows made from each of a list is left joining, item by item, the rows made
from it. -/
theorem leftJoin_flatMap {γ : Type} (matching : α → List β) (f : γ → List α) (l : List γ) :
    leftJoin matching (l.flatMap f) = l.flatMap fun c => leftJoin matching (f c) := by
  simp only [leftJoin, List.flatMap_assoc]

/-! ## Counts by group -/

/-- A group read off the front of a join: a row, more rows with its left part, then rows of
other keys. The group counts the matches among its rows, and the other rows are grouped after
it. -/
theorem groupCount_group [BEq κ] [LawfulBEq κ] (key : α → κ) {a : α} {b : Option β}
    {more rest : List (α × Option β)} (hmore : ∀ x ∈ more, x.1 = a)
    (hrest : ∀ x ∈ rest, key x.1 ≠ key a) :
    groupCount key ((a, b) :: (more ++ rest)) =
      (a, ((b :: more.map (·.2)).filter Option.isSome).length) :: groupCount key rest := by
  have hin : (more ++ rest).filter (fun x => key x.1 == key a) = more := by
    rw [List.filter_append, List.filter_eq_self.mpr fun x hx => by simp [hmore x hx],
      List.filter_eq_nil_iff.mpr fun x hx => by simpa using hrest x hx, List.append_nil]
  have hout : outsideGroup key (key a) (more ++ rest) = rest := by
    rw [outsideGroup, List.filter_append, List.filter_eq_nil_iff.mpr fun x hx => by
      simp [hmore x hx], List.filter_eq_self.mpr fun x hx => by simpa using hrest x hx,
      List.nil_append]
  rw [groupCount, hin, hout]

/-- Grouped by a key that tells its rows apart, a left join gives each row with the number of
its matches. -/
theorem groupCount_leftJoin [BEq κ] [LawfulBEq κ] (key : α → κ) (matching : α → List β) :
    ∀ {rows : List α}, (rows.map key).Nodup →
      groupCount key (leftJoin matching rows) = rows.map fun a => (a, (matching a).length)
  | [], _ => by rw [leftJoin, List.flatMap_nil, groupCount, List.map_nil]
  | a :: rows, hnodup => by
    rw [List.map_cons, List.nodup_cons] at hnodup
    -- the later rows have other keys, so the group of `a` is its own joined rows
    have hrest : ∀ x ∈ leftJoin matching rows, key x.1 ≠ key a := fun x hx he =>
      hnodup.1 (he ▸ List.mem_map_of_mem (fst_mem_of_mem_leftJoin hx))
    have ih := groupCount_leftJoin key matching hnodup.2
    rw [leftJoin_cons, List.map_cons]
    cases hm : matching a with
    | nil =>
      rw [leftJoin_singleton_of_nil hm, List.singleton_append,
        ← List.nil_append (leftJoin matching rows),
        groupCount_group key (fun _ h => absurd h List.not_mem_nil) hrest, ih]
      simp
    | cons b bs =>
      rw [leftJoin_singleton_of_cons hm, List.cons_append,
        groupCount_group key (fun x hx => by obtain ⟨_, -, rfl⟩ := List.mem_map.mp hx; rfl)
          hrest, ih]
      simp [List.map_map, Function.comp_def, List.filter_map]

/-- Grouped by their places, the rows of a left join are the rows with the number of their
matches. -/
theorem groupCount_leftJoin_zipIdx (matching : α → List β) (rows : List α) :
    (groupCount (·.2) (leftJoin (fun x => matching x.1) rows.zipIdx)).map
        (fun g => (g.1.1, g.2)) = rows.map fun a => (a, (matching a).length) := by
  have hplaces : (rows.zipIdx.map (·.2)).Nodup := by
    rw [List.zipIdx_map_snd]
    exact List.nodup_range' ..
  rw [groupCount_leftJoin _ _ hplaces, List.map_map]
  conv_rhs => rw [← List.zipIdx_map_fst 0 rows, List.map_map]
  rfl

end PackageRegistry.Store
