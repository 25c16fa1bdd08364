import PackageRegistry.Text.Quoted
/-!
# SHA-256

The SHA-256 digest (FIPS 180-4) of an octet sequence, and its lowercase hexadecimal text, which
is how passwords and API keys are stored.
-/

namespace PackageRegistry.Digest

def roundConstants : Array UInt32 := #[
  0x428a2f98, 0x71374491, 0xb5c0fbcf, 0xe9b5dba5, 0x3956c25b, 0x59f111f1, 0x923f82a4, 0xab1c5ed5,
  0xd807aa98, 0x12835b01, 0x243185be, 0x550c7dc3, 0x72be5d74, 0x80deb1fe, 0x9bdc06a7, 0xc19bf174,
  0xe49b69c1, 0xefbe4786, 0x0fc19dc6, 0x240ca1cc, 0x2de92c6f, 0x4a7484aa, 0x5cb0a9dc, 0x76f988da,
  0x983e5152, 0xa831c66d, 0xb00327c8, 0xbf597fc7, 0xc6e00bf3, 0xd5a79147, 0x06ca6351, 0x14292967,
  0x27b70a85, 0x2e1b2138, 0x4d2c6dfc, 0x53380d13, 0x650a7354, 0x766a0abb, 0x81c2c92e, 0x92722c85,
  0xa2bfe8a1, 0xa81a664b, 0xc24b8b70, 0xc76c51a3, 0xd192e819, 0xd6990624, 0xf40e3585, 0x106aa070,
  0x19a4c116, 0x1e376c08, 0x2748774c, 0x34b0bcb5, 0x391c0cb3, 0x4ed8aa4a, 0x5b9cca4f, 0x682e6ff3,
  0x748f82ee, 0x78a5636f, 0x84c87814, 0x8cc70208, 0x90befffa, 0xa4506ceb, 0xbef9a3f7, 0xc67178f2]

def initialState : Array UInt32 :=
  #[0x6a09e667, 0xbb67ae85, 0x3c6ef372, 0xa54ff53a, 0x510e527f, 0x9b05688c, 0x1f83d9ab, 0x5be0cd19]

/-- Rotates a word right. -/
def rotr (x : UInt32) (n : UInt32) : UInt32 := (x >>> n) ||| (x <<< (32 - n))

/-- The message padded to whole blocks: a `1` bit, zeros, and the bit length in 64 bits. -/
def padMessage (msg : List UInt8) : List UInt8 :=
  let len := msg.length
  let zeros := (64 + 56 - (len + 1) % 64) % 64
  let bits := len * 8
  msg ++ [0x80] ++ List.replicate zeros 0 ++
    (List.range 8).reverse.map fun i => UInt8.ofNat (bits / Nat.pow 2 (8 * i) % 256)

/-- The big-endian word of four octets. -/
def wordOf (a b c d : UInt8) : UInt32 :=
  (a.toUInt32 <<< 24) ||| (b.toUInt32 <<< 16) ||| (c.toUInt32 <<< 8) ||| d.toUInt32

def blockWords : List UInt8 → List UInt32
  | a :: b :: c :: d :: rest => wordOf a b c d :: blockWords rest
  | _ => []

/-- The 64-word schedule of a block's sixteen words. -/
def schedule (w : Array UInt32) : Array UInt32 :=
  (List.range 48).foldl (fun (w : Array UInt32) i =>
    let t := i + 16
    let w15 := w.getD (t - 15) 0
    let w2 := w.getD (t - 2) 0
    let s0 := rotr w15 7 ^^^ rotr w15 18 ^^^ (w15 >>> 3)
    let s1 := rotr w2 17 ^^^ rotr w2 19 ^^^ (w2 >>> 10)
    w.push (w.getD (t - 16) 0 + s0 + w.getD (t - 7) 0 + s1)) w

/-- Compresses one block into the state. -/
def compress (h : Array UInt32) (block : List UInt8) : Array UInt32 :=
  let w := schedule (blockWords block).toArray
  let init := (h.getD 0 0, h.getD 1 0, h.getD 2 0, h.getD 3 0, h.getD 4 0, h.getD 5 0,
    h.getD 6 0, h.getD 7 0)
  let (a, b, c, d, e, f, g, hh) := (List.range 64).foldl
    (fun (st : UInt32 × UInt32 × UInt32 × UInt32 × UInt32 × UInt32 × UInt32 × UInt32) i =>
      let (a, b, c, d, e, f, g, hh) := st
      let s1 := rotr e 6 ^^^ rotr e 11 ^^^ rotr e 25
      let ch := (e &&& f) ^^^ ((~~~ e) &&& g)
      let t1 := hh + s1 + ch + roundConstants.getD i 0 + w.getD i 0
      let s0 := rotr a 2 ^^^ rotr a 13 ^^^ rotr a 22
      let maj := (a &&& b) ^^^ (a &&& c) ^^^ (b &&& c)
      let t2 := s0 + maj
      (t1 + t2, a, b, c, d + t1, e, f, g)) init
  #[h.getD 0 0 + a, h.getD 1 0 + b, h.getD 2 0 + c, h.getD 3 0 + d, h.getD 4 0 + e,
    h.getD 5 0 + f, h.getD 6 0 + g, h.getD 7 0 + hh]

/-- The 64-octet blocks of a padded message. -/
def blocksOf (bs : List UInt8) : List (List UInt8) :=
  match bs with
  | [] => []
  | b :: rest => (b :: rest).take 64 :: blocksOf ((b :: rest).drop 64)
termination_by bs.length
decreasing_by simp only [List.length_drop, List.length_cons]; omega

/-- The digest of a message, as eight words. -/
def sha256Words (msg : List UInt8) : Array UInt32 :=
  (blocksOf (padMessage msg)).foldl compress initialState

/-- The lowercase hexadecimal text of the digest. -/
def sha256Hex (msg : List UInt8) : String :=
  String.join ((sha256Words msg).toList.map fun w =>
    String.ofList (PackageRegistry.Text.hexPadded 8 w.toNat))

end PackageRegistry.Digest
