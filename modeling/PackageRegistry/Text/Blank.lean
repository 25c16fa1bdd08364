/-!
# Blank characters

The characters separating words, removed by trimming: the `Zs`, `Zl` and `Zp` categories and the
bidirectional classes `WS`, `B` and `S`. Blank means this set throughout.
-/

namespace PackageRegistry.Text

/-- A blank character: one of the twenty-nine whitespace code points listed above. -/
def isBlank (c : Char) : Bool :=
  let n := c.toNat
  (0x09 ≤ n && n ≤ 0x0D) || (0x1C ≤ n && n ≤ 0x20) || n == 0x85 || n == 0xA0 ||
    n == 0x1680 || (0x2000 ≤ n && n ≤ 0x200A) || n == 0x2028 || n == 0x2029 ||
    n == 0x202F || n == 0x205F || n == 0x3000

/-- Characters with leading blanks removed. -/
def dropBlanks (cs : List Char) : List Char :=
  cs.dropWhile isBlank

/-- Characters with leading and trailing blanks removed. -/
def trimBlanks (cs : List Char) : List Char :=
  (dropBlanks (dropBlanks cs).reverse).reverse

/-- Text with leading and trailing blanks removed. -/
def trim (s : String) : String :=
  String.ofList (trimBlanks s.toList)

/-- Whether text holds nothing but blanks (the empty text included). -/
def isBlankText (s : String) : Bool :=
  s.toList.all isBlank

/-- The longest prefix of non-blank characters, and what follows it. -/
def spanWord (cs : List Char) : List Char × List Char :=
  (cs.takeWhile (fun c => !isBlank c), cs.dropWhile (fun c => !isBlank c))

theorem spanWord_snd_length_le (cs : List Char) : (spanWord cs).2.length ≤ cs.length := by
  simp only [spanWord]
  exact (List.dropWhile_suffix _).length_le

/-- The maximal runs of non-blank characters, in order. -/
def wordsOf (cs : List Char) : List (List Char) :=
  match h : dropBlanks cs with
  | [] => []
  | c :: rest =>
    have : (spanWord rest).2.length < cs.length := by
      have hd : (dropBlanks cs).length ≤ cs.length := (List.dropWhile_suffix _).length_le
      have hs : (spanWord rest).2.length ≤ rest.length := spanWord_snd_length_le rest
      rw [h] at hd
      simp only [List.length_cons] at hd
      omega
    (c :: (spanWord rest).1) :: wordsOf (spanWord rest).2
termination_by cs.length

/-- The words of a text: its maximal runs of non-blank characters, in order. -/
def words (s : String) : List String :=
  (wordsOf s.toList).map String.ofList

end PackageRegistry.Text
