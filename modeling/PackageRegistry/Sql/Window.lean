import PackageRegistry.Sql.Syntax
/-!
# Window frames

A window call computes a value per row of a partition sorted by the window's order; a frame
selects the rows an aggregate reads.
-/

namespace PackageRegistry.Sql

/-! ## Runs of peers -/

/-- The run numbers of the elements after `prev`, whose run is `k`: an element starts a new run
unless `same` relates it to the element before it. -/
def runNumbersFrom {α : Type} (same : α → α → Bool) (prev : α) (k : Nat) : List α → List Nat
  | [] => []
  | x :: rest =>
    let k := if same prev x then k else k + 1
    k :: runNumbersFrom same x k rest

/-- The run number of each element of a list, from zero. -/
def runNumbers {α : Type} (same : α → α → Bool) : List α → List Nat
  | [] => []
  | x :: rest => 0 :: runNumbersFrom same x 0 rest

/-- A list cut into its runs: maximal stretches of elements that `same` relates to the element
before them. -/
def splitRuns {α : Type} (same : α → α → Bool) : List α → List (List α)
  | [] => []
  | x :: rest =>
    match splitRuns same rest with
    | (y :: ys) :: more => if same x y then (x :: y :: ys) :: more else [x] :: (y :: ys) :: more
    | runs => [x] :: runs

/-- The first position of run `k`, or the length past the last run. -/
def runStart (runs : List Nat) (k : Nat) : Nat :=
  (runs.findIdx? (· == k)).getD runs.length

/-- The last position of run `k` (the list's last position past the last run). -/
def runEnd (runs : List Nat) (k : Nat) : Int :=
  match (runs.zipIdx.filter (·.1 == k)).getLast? with
  | some (_, i) => i
  | none => (runs.length : Int) - 1

/-- The run of the row at a position. -/
def runAt (runs : List Nat) (i : Nat) : Nat := runs.getD i 0

/-! ## Ranking -/

/-- `rank()` of the row at `i`: one more than the rows before its first peer. -/
def rankAt (runs : List Nat) (i : Nat) : Nat := runStart runs (runAt runs i) + 1

/-- `dense_rank()` of the row at `i`: its run's number from one. -/
def denseRankAt (runs : List Nat) (i : Nat) : Nat := runAt runs i + 1

/-- `percent_rank()` of the row at `i`: the rows before its first peer over the rows after the
first, `0.0` for a partition of one row. -/
def percentRankAt (runs : List Nat) (i : Nat) : Float :=
  if runs.length ≤ 1 then 0.0
  else (runStart runs (runAt runs i)).toFloat / (runs.length - 1).toFloat

/-- `cume_dist()` of the row at `i`: the rows up to its last peer over all rows. -/
def cumeDistAt (runs : List Nat) (i : Nat) : Float :=
  ((runEnd runs (runAt runs i)) + 1).toNat.toFloat / runs.length.toFloat

/-- `ntile(buckets)` at row `i` of `total`: the first `total % buckets` buckets get one more
row. -/
def ntileAt (buckets total i : Nat) : Nat :=
  let size := total / buckets
  if size = 0 then i + 1
  else
    let large := total - buckets * size
    let small := large * (size + 1)
    if i < small then 1 + i / (size + 1) else 1 + large + (i - small) / size

/-! ## Frames -/

/-- Where a frame bound lies once its offset is known. -/
inductive Reach where
  | unbounded
  | currentRow
  | preceding (n : Nat)
  | following (n : Nat)
  /-- A `RANGE` offset: whether the order value at each position lies at or inside the bound. -/
  | within (test : Nat → Bool)

/-- The first position a frame's start admits for the row at `i`, counted in rows, runs of
peers, or (for `RANGE`) peers and order values. -/
def frameStart (unit : FrameUnit) (runs : List Nat) (i : Nat) : Reach → Int
  | .unbounded => 0
  | .currentRow => if unit == .rows then i else runStart runs (runAt runs i)
  | .preceding m =>
    match unit with
    | .rows => (i : Int) - m
    | _ =>
      let k := runAt runs i
      if m ≤ k then runStart runs (k - m) else 0
  | .following m =>
    match unit with
    | .rows => i + m
    | _ => runStart runs (runAt runs i + m)
  | .within test => ((List.range runs.length).find? test).getD runs.length

/-- The last position a frame's end admits for the row at `i`. -/
def frameEnd (unit : FrameUnit) (runs : List Nat) (i : Nat) : Reach → Int
  | .unbounded => (runs.length : Int) - 1
  | .currentRow => if unit == .rows then i else runEnd runs (runAt runs i)
  | .preceding m =>
    match unit with
    | .rows => (i : Int) - m
    | _ =>
      let k := runAt runs i
      if m ≤ k then runEnd runs (k - m) else -1
  | .following m =>
    match unit with
    | .rows => i + m
    | _ => runEnd runs (runAt runs i + m)
  | .within test => (((List.range runs.length).filter test).getLast?.map (fun j => (j : Int))).getD (-1)

/-- Whether `EXCLUDE` keeps the position `j` in the frame of the row at `i`. -/
def FrameExclude.keeps (x : FrameExclude) (runs : List Nat) (i j : Nat) : Bool :=
  match x with
  | .noOthers => true
  | .currentRow => j != i
  | .group => runAt runs j != runAt runs i
  | .ties => j == i || runAt runs j != runAt runs i

/-- The positions of the frame of the row at `i`, in order. -/
def framePositions (unit : FrameUnit) (start finish : Reach) (exclude : FrameExclude)
    (runs : List Nat) (i : Nat) : List Nat :=
  let s := frameStart unit runs i start
  let e := frameEnd unit runs i finish
  (List.range runs.length).filter fun j =>
    s ≤ (j : Int) && (j : Int) ≤ e && exclude.keeps runs i j

end PackageRegistry.Sql
