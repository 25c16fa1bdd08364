import PackageRegistry.Text.CaseMap
/-!
# Single-character case

Caseless matching gives each character one code point per case, the first of its full lowercase
or uppercase; lowercase letters sharing an uppercase (`s` and `ſ`) match as one.
-/

namespace PackageRegistry.Text

/-- A code point's first image in a case table, itself when unnamed. -/
def firstImage (table : Array CaseEntry) (n : Nat) : Nat :=
  match caseSearch table n 0 table.size with
  | some (c :: _) => c.toNat
  | _ => n

/-- The first code point of the full lowercase of a code point. -/
def lowerFirst (n : Nat) : Nat := firstImage lowerTable n

/-- The first code point of the full uppercase of a code point. -/
def upperFirst (n : Nat) : Nat := firstImage upperTable n

/-- Whether a code point is cased: its lowercase or its uppercase differs from it. -/
def isCasedCode (n : Nat) : Bool := lowerFirst n != n || upperFirst n != n

/-- The first index between `lo` and `hi` whose key is at least `n`, in an array sorted by
key. -/
def lowerBound {β : Type} (table : Array (Nat × β)) (n : Nat) (lo hi : Nat) : Nat :=
  if h : lo < hi then
    let mid := (lo + hi) / 2
    if hm : mid < table.size then
      if table[mid].1 < n then lowerBound table n (mid + 1) hi
      else lowerBound table n lo mid
    else lo
  else lo
termination_by hi - lo
decreasing_by
  all_goals omega

/-- The entries from index `i` on whose keys are at most `hi`, in an array sorted by key. -/
def entriesUpTo {β : Type} (table : Array (Nat × β)) (hi : Nat) (i : Nat) : List (Nat × β) :=
  if h : i < table.size then
    if table[i].1 ≤ hi then table[i] :: entriesUpTo table hi (i + 1) else []
  else []
termination_by table.size - i
decreasing_by
  omega

/-- The entries of an array sorted by key whose keys lie between `lo` and `hi`. -/
def entriesBetween {β : Type} (table : Array (Nat × β)) (lo hi : Nat) : List (Nat × β) :=
  entriesUpTo table hi (lowerBound table lo 0 table.size)

/-- Whether some code point in `lo`..`hi` is cased, trying those a case table names. -/
def anyCasedBetween (lo hi : Nat) : Bool :=
  (entriesBetween lowerTable lo hi).any (isCasedCode ·.1) ||
    (entriesBetween upperTable lo hi).any (isCasedCode ·.1)

/-- Every code point whose lowercase differs from it, keyed by that lowercase, sorted. -/
def lowerSourceTable : Array (Nat × Nat) :=
  let pairs := lowerTable.toList.filterMap fun (n, image) =>
    match image with
    | c :: _ => if c.toNat != n then some (c.toNat, n) else none
    | [] => none
  (pairs.mergeSort fun a b => a.1 < b.1 || (a.1 == b.1 && a.2 ≤ b.2)).toArray

/-- The code points whose lowercase is `l`: `l` itself when it is its own lowercase, then the
others in order. -/
def lowerSources (l : Nat) : List Nat :=
  (if lowerFirst l == l then [l] else []) ++ (entriesBetween lowerSourceTable l l).map (·.2)

/-- Lowercase characters and the other lowercase characters with the same uppercase. -/
def sharedUpperText : String :=
  "69:131,73:17f,b5:3bc,131:69,17f:73,345:3b9 1fbe,390:1fd3,3b0:1fe3,3b2:3d0,3b5:3f5,3b8:3d1," ++
  "3b9:345 1fbe,3ba:3f0,3bc:b5,3c0:3d6,3c1:3f1,3c2:3c3,3c3:3c2,3c6:3d5,3d0:3b2,3d1:3b8," ++
  "3d5:3c6,3d6:3c0,3f0:3ba,3f1:3c1,3f5:3b5,432:1c80,434:1c81,43e:1c82,441:1c83,442:1c84 1c85," ++
  "44a:1c86,463:1c87,1c80:432,1c81:434,1c82:43e,1c83:441,1c84:442 1c85,1c85:442 1c84," ++
  "1c86:44a,1c87:463,1c88:a64b,1e61:1e9b,1e9b:1e61,1fbe:345 3b9,1fd3:390,1fe3:3b0,a64b:1c88," ++
  "fb05:fb06,fb06:fb05"

def sharedUpperTable : List (Nat × List Nat) :=
  (sharedUpperText.splitOn ",").filterMap fun entry =>
    match entry.splitOn ":" with
    | [k, vs] => do
      let key ← readHex? k
      let others ← (vs.splitOn " ").mapM readHex?
      pure (key, others)
    | _ => none

/-- The other lowercase characters with the same uppercase as the lowercase character `l`. -/
def sharedUpper (l : Nat) : List Nat :=
  ((sharedUpperTable.find? (·.1 == l)).map (·.2)).getD []

end PackageRegistry.Text
