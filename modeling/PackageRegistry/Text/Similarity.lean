/-!
# Similar words

How alike two words are, to suggest a known word for a mistyped one: twice the matched count
over the total length, close at 0.6. The close matches are the three closest candidates.
-/

namespace PackageRegistry.Text

/-- The longest common block of two words: its starts in each and its length; ties to the
earliest in `a`, then `b`. -/
def longestBlock (a b : List Char) : Nat × Nat × Nat :=
  let step := fun (acc : List Nat × (Nat × Nat × Nat)) (xi : Char × Nat) =>
    let (prev, best) := acc
    let (x, i) := xi
    let row := (b.zipIdx).map fun (y, j) =>
      if x = y then (if j = 0 then 0 else prev.getD (j - 1) 0) + 1 else 0
    let best := (row.zipIdx).foldl (fun best (k, j) =>
      if k > best.2.2 then (i + 1 - k, j + 1 - k, k) else best) best
    (row, best)
  (a.zipIdx.foldl step (List.replicate b.length 0, (0, 0, 0))).2

/-- The number of characters two words have in matching blocks; the fuel bounds the depth. -/
def matchedCount : Nat → List Char → List Char → Nat
  | 0, _, _ => 0
  | fuel + 1, a, b =>
    let (i, j, k) := longestBlock a b
    if k = 0 then 0
    else k + matchedCount fuel (a.take i) (b.take j) + matchedCount fuel (a.drop (i + k)) (b.drop (j + k))

/-- The similarity of a candidate to a word, as matched count and total length. -/
def similarity (candidate word : String) : Nat × Nat :=
  let a := candidate.toList
  let b := word.toList
  (matchedCount (a.length + 1) a b, a.length + b.length)

/-- Whether a similarity reaches 0.6. -/
def isClose (s : Nat × Nat) : Bool := 10 * s.1 ≥ 3 * s.2

/-- Whether the first scored candidate ranks above the second: a higher similarity, or the
same and a later name. -/
def ranksAbove (x y : (Nat × Nat) × String) : Bool :=
  let l := x.1.1 * y.1.2
  let r := y.1.1 * x.1.2
  l > r || (l == r && x.2 > y.2)

/-- The (at most three) close matches of a word among candidates, closest first. -/
def closeMatches (word : String) (candidates : List String) : List String :=
  let scored := (candidates.map fun c => (similarity c word, c)).filter (isClose ·.1)
  ((scored.mergeSort ranksAbove).take 3).map (·.2)

end PackageRegistry.Text
