/-!
# Packed text

Long tables are kept as an arithmetic code of their UTF-8 bytes, two printable characters to
thirteen bits. Each bit is read with a probability that mixes, in the logistic domain, what five
contexts (the last one, two, three, four and six bytes, hashed) and the latest earlier repeat of
the last four bytes predict, through two mixers (one chosen by the bits read of the byte and the
repeat's length, one by the byte before); the predictions and the weights learn from every bit.
-/

namespace PackageRegistry.Text

/-! ## Probabilities -/

/-- The logistic curve at 33 points, from `-2048` to `2048` in steps of 128, out of 4096. -/
def curvePoints : Array Nat :=
  #[1, 2, 3, 6, 10, 16, 27, 45, 73, 120, 194, 310, 488, 747, 1101, 1546, 2047, 2549, 2994, 3348,
    3607, 3785, 3901, 3975, 4024, 4050, 4068, 4079, 4085, 4089, 4092, 4093, 4094]

/-- The probability out of 4096 at a point of the logistic domain: read between the curve's
points, and all but certain past its ends. -/
def squash (d : Int) : Nat :=
  if d > 2047 then 4095
  else if d < -2047 then 1
  else
    let i := (d / 128 + 16).toNat
    let w := (d % 128).toNat
    (curvePoints.getD i 0 * (128 - w) + curvePoints.getD (i + 1) 0 * w + 64) / 128

/-- The inverse of `squash`: for each probability, the least point where it is reached. -/
def stretchTable : Array Int :=
  let (table, _) := (List.range 4095).foldl (fun (acc : Array Int × Nat) (k : Nat) =>
    let x : Int := (k : Int) - 2047
    let v := squash x
    (acc.1 ++ Array.replicate (v + 1 - acc.2) x, v + 1)) (#[], 0)
  table ++ Array.replicate (4096 - table.size) 2047

/-- A prediction after the bit `b`: its probability out of 4096 moved toward `b` by a share that
shrinks as the prediction is used, and above it how often it was used, up to eight times. -/
def adapt (g : Nat) (b : Bool) : Nat :=
  let p := g % 4096
  let n := g / 4096
  let p := if b then p + (4096 - p) * 2 / (2 * n + 3) else p - p * 2 / (2 * n + 3)
  p + 4096 * min (n + 1) 8

/-- The prediction in slot `i` of a table of two-byte slots, low byte first. -/
def guessAt (gs : ByteArray) (i : Nat) : Nat :=
  (gs.get! (2 * i)).toNat + 256 * (gs.get! (2 * i + 1)).toNat

def setGuess (gs : ByteArray) (i g : Nat) : ByteArray :=
  (gs.set! (2 * i) (g % 256).toUInt8).set! (2 * i + 1) (g / 256).toUInt8

/-- The slots of `gs` repeated `2^k` times. -/
def doubled : Nat → ByteArray → ByteArray
  | 0, gs => gs
  | k + 1, gs => doubled k (gs ++ gs)

/-! ## Contexts -/

/-- How many bytes before a bit's byte each context reads. -/
def contextOrders : List Nat := [1, 2, 3, 4, 6]

/-- The hash of the `q`-th context: the `k` bytes before position `pos` (zero before the start)
folded into the context's seed. -/
def contextHash (out : ByteArray) (pos q k : Nat) : UInt32 :=
  (List.range k).foldl (fun h j =>
    let c : UInt32 := if j < pos then (out.get! (pos - 1 - j)).toUInt32 else 0
    (h ^^^ c) * 0x01000193) ((q + 1).toUInt32 * 0x9E3779B1)

/-- Where the four bytes ending at position `pos` hash to in the table of repeats. -/
def repeatHash (out : ByteArray) (pos : Nat) : Nat :=
  ((List.range 4).foldl (fun (h : UInt32) j => (h ^^^ (out.get! (pos - j)).toUInt32) * 0x01000193)
    0 >>> 14).toNat

/-! ## Decoding -/

/-- The arithmetic decoder: the code, where its next byte is, the interval `[low, high]` of
32-bit codes not ruled out yet, and the 32 code bits read. -/
structure Coder where
  code : ByteArray
  next : Nat
  low : Nat
  high : Nat
  value : Nat

/-- Shifts out, at most `n` times, the leading byte `low` and `high` share, reading a code byte
(zero past the end) for each. -/
def Coder.shift : Nat → Coder → Coder
  | 0, c => c
  | n + 1, c =>
    if c.low / 16777216 = c.high / 16777216 then
      let byte := if c.next < c.code.size then (c.code.get! c.next).toNat else 0
      shift n { c with next := c.next + 1, low := c.low % 16777216 * 256,
                       high := c.high % 16777216 * 256 + 255,
                       value := c.value % 16777216 * 256 + byte }
    else c

/-- Reads a bit that is 1 with probability `p` out of 4096. -/
def Coder.readBit (c : Coder) (p : Nat) : Bool × Coder :=
  let mid := c.low + (c.high - c.low) / 4096 * p
  if c.value ≤ mid then (true, shift 4 { c with high := mid })
  else (false, shift 4 { c with low := mid + 1 })

/-- What the decoder has learned: the contexts' predictions (five tables of 2^22 slots), the
weights of the two mixers (seven inputs each), and the predictions of repeats by their length
and bit. -/
structure Learned where
  guesses : ByteArray
  weights : Array Int
  weights2 : Array Int
  repeatGuesses : Array Nat

/-- The slots, in the tables from the `q`-th on, of the contexts with these hashes for the bit
after the bits `c0` holds. -/
def slotsOf (c0 : Nat) : Nat → List UInt32 → List Nat
  | _, [] => []
  | q, h :: hs =>
    (q * 4194304 + (((h + c0.toUInt32 * 0x2F0B3F1) * 0x9E3779B1) >>> 10).toNat) ::
      slotsOf c0 (q + 1) hs

/-- A mixer's weighted sum of its inputs, its weights from index `s` on. -/
def weigh (w : Array Int) : Nat → List Int → Int
  | _, [] => 0
  | s, x :: xs => w.getD s 0 * x + weigh w (s + 1) xs

/-- A mixer's weights from index `s` on, each moved by its input times the error. -/
def train (err : Int) : Nat → List Int → Array Int → Array Int
  | _, [], w => w
  | s, x :: xs, w => train err (s + 1) xs (w.modify s (· + x * err / 1024))

/-- Reads one bit of a byte: `c0` holds the bits read after a leading 1 and `b` bits follow this
one; `hashes` are the contexts' hashes, `c1` the byte before, and `guessed` the next byte of the
repeat, `len` bytes long so far. -/
def readBitWith (hashes : List UInt32) (c1 : Nat) (guessed : Option Nat) (len c0 b : Nat)
    (c : Coder) (m : Learned) : Bool × Coder × Learned :=
  let ⟨gs, ws, ws2, rs⟩ := m
  let slots := slotsOf c0 0 hashes
  -- the repeat has a say only while its byte agrees with the bits read
  let agreed := match guessed with
    | some g => if (g + 256) / Nat.pow 2 (b + 1) = c0 then
        some (min len 31 * 2 + g / Nat.pow 2 b % 2) else none
    | none => none
  let stretch := fun (g : Nat) => stretchTable.getD (g % 4096) 0
  let inputs := slots.map (fun i => stretch (guessAt gs i)) ++
    [(agreed.map fun k => stretch (rs.getD k 0)).getD 0, 256]
  let start := (c0 * 17 + if agreed.isSome then min len 15 + 1 else 0) * 7
  let start2 := (c1 * 256 + c0) * 7
  let p := squash ((weigh ws start inputs + weigh ws2 start2 inputs) / 131072)
  let (bit, c) := c.readBit p
  let err : Int := ((if bit then 4096 else 0 : Int) - p) * 2
  let gs := slots.foldl (fun gs i => setGuess gs i (adapt (guessAt gs i) bit)) gs
  let rs := match agreed with
    | some k => rs.modify k (adapt · bit)
    | none => rs
  (bit, c, ⟨gs, train err start inputs ws, train err start2 inputs ws2, rs⟩)

/-- Reads the `b` bits of a byte left after those `c0` holds. -/
def readByteWith (hashes : List UInt32) (c1 : Nat) (guessed : Option Nat) (len : Nat) :
    Nat → Nat → Coder → Learned → Nat × Coder × Learned
  | 0, c0, c, m => (c0 - 256, c, m)
  | b + 1, c0, c, m =>
    let (bit, c, m) := readBitWith hashes c1 guessed len c0 b c m
    readByteWith hashes c1 guessed len b (2 * c0 + if bit then 1 else 0) c m

/-- Reads `n` more bytes after `out`, carrying where each hashed four bytes last ended and the
repeat being followed: its length and the position of its next byte. -/
def readBytes : Nat → Coder → Learned → Array Nat → Nat → Nat → ByteArray → ByteArray
  | 0, _, _, _, _, _, out => out
  | n + 1, c, m, ends, len, spot, out =>
    let pos := out.size
    let hashes := contextOrders.zipIdx.map fun (k, q) => contextHash out pos q k
    let guessed := if len > 0 then some (out.get! spot).toNat else none
    let c1 := if pos > 0 then (out.get! (pos - 1)).toNat else 0
    let (byte, c, m) := readByteWith hashes c1 guessed len 8 1 c m
    let out := out.push byte.toUInt8
    -- a repeat goes on while it guesses right; a dropped one is taken up again where the last
    -- four bytes last ended
    let (len, spot) := if len > 0 && guessed == some byte then (len + 1, spot + 1) else (0, spot)
    if pos + 1 < 4 then readBytes n c m ends len spot out
    else
      let h := repeatHash out pos
      let last := ends.getD h 0
      let (len, spot) := if len == 0 && last > 0 then (1, last) else (len, spot)
      readBytes n c m (ends.set! h (pos + 1)) len spot out

/-- The place of a character in the code's alphabet: the printable characters but `"`, `\`, `{`
and `}`. -/
def codeDigit (c : Char) : Nat :=
  let n := c.toNat
  n - 32 - (if n > 0x22 then 1 else 0) - (if n > 0x5C then 1 else 0) -
    (if n > 0x7B then 1 else 0) - (if n > 0x7D then 1 else 0)

/-- The code's bytes after `out`, from pairs of characters giving thirteen bits each (the first
the more significant), `bits` bits of `acc` waiting. -/
def codeBytesFrom : List Char → Nat → Nat → ByteArray → ByteArray
  | a :: b :: rest, acc, bits, out =>
    let acc := acc * 8192 + (codeDigit a * 91 + codeDigit b)
    let out := out.push (acc / Nat.pow 2 (bits + 5) % 256).toUInt8
    if bits + 5 ≥ 8 then
      codeBytesFrom rest (acc % Nat.pow 2 (bits - 3)) (bits - 3)
        (out.push (acc / Nat.pow 2 (bits - 3) % 256).toUInt8)
    else codeBytesFrom rest (acc % Nat.pow 2 (bits + 5)) (bits + 5) out
  | _, _, _, out => out

/-- The text of `size` bytes whose code the pieces hold, read one after the other. -/
def unpack (size : Nat) (pieces : List String) : String :=
  let code := codeBytesFrom (pieces.flatMap String.toList) 0 0 ByteArray.empty
  let value := (List.range 4).foldl (fun v i =>
    v * 256 + if i < code.size then (code.get! i).toNat else 0) 0
  let table := doubled 22 ⟨#[0, 8]⟩
  let m : Learned := ⟨table ++ table ++ table ++ table ++ table, Array.replicate 30464 9362,
    Array.replicate 458752 9362, Array.replicate 64 2048⟩
  let out := readBytes size ⟨code, 4, 0, 4294967295, value⟩ m (Array.replicate 262144 0) 0 0
    ByteArray.empty
  (String.fromUTF8? out).getD ""

end PackageRegistry.Text
