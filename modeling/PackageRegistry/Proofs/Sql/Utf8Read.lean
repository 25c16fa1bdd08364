import Mathlib
import PackageRegistry.Proofs.Sql.TextBytes
import PackageRegistry.Sql.Pattern
/-!
# Reading encoded characters back

Text bound from a string is its UTF-8 encoding, which the engine's `readChar` reads back
character by character, `U+FFFE` and `U+FFFF` as `U+FFFD`.
-/

namespace PackageRegistry.Sql

/-! ## The bytes of one character -/

set_option maxRecDepth 4000 in
/-- A continuation byte is one from 128 to 191. -/
theorem isContinuation_iff (b : UInt8) :
    isContinuation b = true ↔ 128 ≤ b.toNat ∧ b.toNat < 192 := by
  have hb : b.toNat < 256 := b.toNat_lt
  have key : ∀ n < 256, (n &&& 192 = 128 ↔ 128 ≤ n ∧ n < 192) := by decide
  have h192 : (0xC0 : UInt8).toNat = 192 := rfl
  have h128 : (0x80 : UInt8).toNat = 128 := rfl
  simp only [isContinuation, beq_iff_eq, ← UInt8.toNat_inj, UInt8.toNat_and, h192, h128]
  exact key b.toNat hb

/-- A continuation byte as the encoder writes it: it continues a character and carries six
bits of the code point. -/
theorem continuation_byte (k : Nat) :
    isContinuation (UInt8.ofNat (k % 0x40 + 0x80)) = true ∧
      (UInt8.ofNat (k % 0x40 + 0x80) &&& 0x3F).toNat = k % 64 := by
  have hsize : UInt8.size = 256 := rfl
  have hb := UInt8.toNat_ofNat_of_lt' (show k % 0x40 + 0x80 < UInt8.size by omega)
  refine ⟨(isContinuation_iff _).mpr (by omega), ?_⟩
  rw [UInt8.toNat_and, show (0x3F : UInt8).toNat = 2 ^ 6 - 1 from rfl,
    Nat.and_two_pow_sub_one_eq_mod, hb]
  omega

/-- A lead byte as written for two, three or four bytes starts a multi-byte character with the
code point's high bits. -/
theorem lead_byte (k m base : Nat)
    (hm : m = 32 ∧ base = 0xC0 ∨ m = 16 ∧ base = 0xE0 ∨ m = 8 ∧ base = 0xF0) :
    ¬ UInt8.ofNat (k % m + base) < 0xC0 ∧ leadBits (UInt8.ofNat (k % m + base)) = k % m := by
  have hsize : UInt8.size = 256 := rfl
  have h192 : (0xC0 : UInt8).toNat = 192 := rfl
  rcases hm with ⟨rfl, rfl⟩ | ⟨rfl, rfl⟩ | ⟨rfl, rfl⟩
  all_goals
    unfold leadBits
    simp only [UInt8.lt_iff_toNat_lt, UInt8.toNat_ofNat', h192]
    split_ifs <;> omega

/-- Text that starts a character: it is empty, or its first byte is no continuation byte. -/
def StartsChar (bs : List UInt8) : Prop := ∀ b ∈ bs.head?, isContinuation b = false

/-- Continuation bytes at the front of text are taken as a whole, up to the next byte that is
none. -/
theorem takeWhile_continuation {cs rest : List UInt8} (hcs : ∀ b ∈ cs, isContinuation b = true)
    (hrest : StartsChar rest) :
    (cs ++ rest).takeWhile isContinuation = cs := by
  rw [List.takeWhile_append_of_pos hcs]
  cases rest with
  | nil => simp
  | cons b rest =>
    rw [List.takeWhile_cons_of_neg (by simp [hrest b rfl]), List.append_nil]

/-- A lead byte, its continuations, then a character start: one character of the lead's bits
and six per continuation. -/
theorem readChar_multiByte {b : UInt8} {cs rest : List UInt8} (hb : ¬ b < 0xC0)
    (hcs : ∀ x ∈ cs, isContinuation x = true)
    (hrest : StartsChar rest) :
    readChar (b :: (cs ++ rest)) =
      let c := cs.foldl (fun acc x => (acc * 64 + (x &&& 0x3F).toNat) % Nat.pow 2 32) (leadBits b)
      some (if c < 0x80 || (0xD800 ≤ c && c ≤ 0xDFFF) || c == 0xFFFE || c == 0xFFFF then 0xFFFD
        else c, rest) := by
  rw [readChar, if_neg hb, takeWhile_continuation hcs hrest]
  dsimp only
  rw [List.drop_left]

/-- The code point the engine reads: the character's own, but `U+FFFE`, `U+FFFF` read as
`U+FFFD`. -/
def charCode (c : Char) : Nat :=
  if c.toNat = 0xFFFE ∨ c.toNat = 0xFFFF then 0xFFFD else c.toNat

/-- A multi-byte character's code point as the engine settles it, for a non-surrogate past
one byte. -/
theorem multiByte_code {v : Nat} (hlo : 0x80 ≤ v)
    (hvalid : v < 0xD800 ∨ 0xDFFF < v ∧ v < 0x110000) :
    (if v < 0x80 || (0xD800 ≤ v && v ≤ 0xDFFF) || v == 0xFFFE || v == 0xFFFF then 0xFFFD
      else v) = if v = 0xFFFE ∨ v = 0xFFFF then 0xFFFD else v := by
  by_cases h : v = 0xFFFE ∨ v = 0xFFFF
  · rw [if_pos h, if_pos (by rcases h with rfl | rfl <;> decide)]
  · rw [if_neg h, if_neg]
    simp only [Bool.or_eq_true, Bool.and_eq_true, decide_eq_true_eq, beq_iff_eq]
    omega

/-- A character's encoding, followed by bytes that start a character, reads as the character's
code point and those bytes. -/
theorem readChar_utf8EncodeChar (c : Char) {rest : List UInt8}
    (hrest : StartsChar rest) :
    readChar (String.utf8EncodeChar c ++ rest) = some (charCode c, rest) := by
  have hvalid := c.valid
  have hcode : charCode c =
      if c.val.toNat = 0xFFFE ∨ c.val.toNat = 0xFFFF then 0xFFFD else c.val.toNat := rfl
  simp only [UInt32.isValidChar, Nat.isValidChar] at hvalid
  unfold String.utf8EncodeChar
  rw [hcode]
  generalize c.val.toNat = v at hvalid ⊢
  have h32 : Nat.pow 2 32 = 4294967296 := rfl
  -- the encoder's four layouts, by the size of the code point
  by_cases h1 : v ≤ 0x7f
  · rw [if_pos h1]
    have hb := UInt8.toNat_ofNat_of_lt' (show v < 256 by omega)
    have hlt : UInt8.ofNat v < 0xC0 := by
      rw [UInt8.lt_iff_toNat_lt, hb]
      exact lt_of_le_of_lt h1 (by decide)
    simp only [List.cons_append, List.nil_append, readChar, if_pos hlt, hb]
    rw [if_neg (by omega)]
  rw [if_neg h1]
  by_cases h2 : v ≤ 0x7ff
  · rw [if_pos h2]
    obtain ⟨hlead, hbits⟩ := lead_byte (v / 64) 0x20 0xc0 (.inl ⟨rfl, rfl⟩)
    obtain ⟨hc2, hl2⟩ := continuation_byte v
    rw [List.cons_append, readChar_multiByte hlead (by simp only [List.forall_mem_cons, hc2, List.not_mem_nil,
      IsEmpty.forall_iff, implies_true, and_self]) hrest]
    simp only [List.foldl_cons, List.foldl_nil, hbits, hl2, h32]
    rw [show (v / 64 % 32 * 64 + v % 64) % 4294967296 = v by omega, multiByte_code (by omega) hvalid]
  rw [if_neg h2]
  by_cases h3 : v ≤ 0xffff
  · rw [if_pos h3]
    obtain ⟨hlead, hbits⟩ := lead_byte (v / 4096) 0x10 0xe0 (.inr (.inl ⟨rfl, rfl⟩))
    obtain ⟨hc2, hl2⟩ := continuation_byte (v / 64)
    obtain ⟨hc3, hl3⟩ := continuation_byte v
    rw [List.cons_append, readChar_multiByte hlead (by simp only [List.forall_mem_cons, hc2, hc3, List.not_mem_nil,
      IsEmpty.forall_iff, implies_true, and_self]) hrest]
    simp only [List.foldl_cons, List.foldl_nil, hbits, hl2, hl3, h32]
    rw [show ((v / 4096 % 16 * 64 + v / 64 % 64) % 4294967296 * 64 + v % 64) % 4294967296 = v
      by omega, multiByte_code (by omega) hvalid]
  · rw [if_neg h3]
    obtain ⟨hlead, hbits⟩ := lead_byte (v / 262144) 0x08 0xf0 (.inr (.inr ⟨rfl, rfl⟩))
    obtain ⟨hc2, hl2⟩ := continuation_byte (v / 4096)
    obtain ⟨hc3, hl3⟩ := continuation_byte (v / 64)
    obtain ⟨hc4, hl4⟩ := continuation_byte v
    rw [List.cons_append, readChar_multiByte hlead (by simp only [List.forall_mem_cons, hc2, hc3, hc4, List.not_mem_nil,
      IsEmpty.forall_iff, implies_true, and_self]) hrest]
    simp only [List.foldl_cons, List.foldl_nil, hbits, hl2, hl3, hl4, h32]
    rw [show (((v / 262144 % 8 * 64 + v / 4096 % 64) % 4294967296 * 64 + v / 64 % 64) %
      4294967296 * 64 + v % 64) % 4294967296 = v by omega, multiByte_code (by omega) hvalid]

/-- The first byte of a character's encoding starts a character. -/
theorem startsChar_utf8EncodeChar (c : Char) : StartsChar (String.utf8EncodeChar c) := by
  intro b hb
  have hsize : UInt8.size = 256 := rfl
  rw [Bool.eq_false_iff, ne_eq, isContinuation_iff]
  unfold String.utf8EncodeChar at hb
  dsimp only at hb
  split_ifs at hb with h1 h2 h3
  all_goals
    simp only [List.head?_cons, Option.mem_def, Option.some.injEq] at hb
    subst hb
    rw [UInt8.toNat_ofNat_of_lt' (by omega)]
    omega

/-! ## Encoded text -/

/-- Encoded characters followed by bytes that start a character start a character. -/
theorem startsChar_flatMap (cs : List Char) {rest : List UInt8} (hrest : StartsChar rest) :
    StartsChar (cs.flatMap String.utf8EncodeChar ++ rest) := by
  cases cs with
  | nil => simpa using hrest
  | cons c cs =>
    intro b hb
    have hne : String.utf8EncodeChar c ≠ [] := by
      rw [← List.length_pos_iff, String.length_utf8EncodeChar]
      exact Char.utf8Size_pos c
    rw [List.flatMap_cons, List.append_assoc, List.head?_append_of_ne_nil _ hne] at hb
    exact startsChar_utf8EncodeChar c b hb

/-- The first character of text that starts with encoded characters is the first of them. -/
theorem readChar_flatMap (c : Char) (cs : List Char) {rest : List UInt8}
    (hrest : StartsChar rest) :
    readChar ((c :: cs).flatMap String.utf8EncodeChar ++ rest) =
      some (charCode c, cs.flatMap String.utf8EncodeChar ++ rest) := by
  rw [List.flatMap_cons, List.append_assoc]
  exact readChar_utf8EncodeChar c (startsChar_flatMap cs hrest)

/-- The end counts as the start of a character. -/
theorem startsChar_nil : StartsChar [] := by
  simp [StartsChar]

/-- The UTF-8 of a text reads as its first character's code and the rest's UTF-8. -/
theorem readChar_text (c : Char) (cs : List Char) :
    readChar ((c :: cs).flatMap String.utf8EncodeChar) =
      some (charCode c, cs.flatMap String.utf8EncodeChar) := by
  simpa using readChar_flatMap c cs startsChar_nil

/-- A character's UTF-8 before more text reads as its code, whatever whole characters follow. -/
theorem nextChar_flatMap (c : Char) (cs : List Char) {rest : List UInt8}
    (hrest : StartsChar rest) :
    nextChar ((c :: cs).flatMap String.utf8EncodeChar ++ rest) =
      (charCode c, cs.flatMap String.utf8EncodeChar ++ rest) := by
  rw [nextChar, readChar_flatMap c cs hrest]
  rfl

/-- The UTF-8 of a text gives its first character's code and the rest's UTF-8. -/
theorem nextChar_text (c : Char) (cs : List Char) :
    nextChar ((c :: cs).flatMap String.utf8EncodeChar) =
      (charCode c, cs.flatMap String.utf8EncodeChar) := by
  simpa using nextChar_flatMap c cs startsChar_nil

/-- A text's UTF-8 is at least as long as the text. -/
theorem length_le_flatMap (cs : List Char) :
    cs.length ≤ (cs.flatMap String.utf8EncodeChar).length := by
  induction cs with
  | nil => simp
  | cons c cs ih =>
    rw [List.flatMap_cons, List.length_append, String.length_utf8EncodeChar, List.length_cons]
    have := Char.utf8Size_pos c
    omega

/-! ## Zero bytes -/

/-- A number with non-zero low byte makes a non-zero byte. -/
theorem ofNat_ne_zero {k : Nat} (h : k % 256 ≠ 0) : UInt8.ofNat k ≠ 0 := fun h' => by
  have h'' := congrArg UInt8.toNat h'
  rw [UInt8.toNat_ofNat'] at h''
  exact h h''

/-- The UTF-8 of a character other than `U+0000` has no zero byte. -/
theorem utf8EncodeChar_ne_zero {c : Char} (h : c.toNat ≠ 0) :
    ∀ b ∈ String.utf8EncodeChar c, b ≠ 0 := by
  have hv : c.toNat = c.val.toNat := rfl
  unfold String.utf8EncodeChar
  dsimp only
  split_ifs
  all_goals
    simp only [List.forall_mem_cons, List.not_mem_nil, IsEmpty.forall_iff, implies_true,
      and_true]
    repeat' apply And.intro
    all_goals exact ofNat_ne_zero (by omega)

/-- The UTF-8 of `U+0000` is the zero byte. -/
theorem utf8EncodeChar_of_zero {c : Char} (h : c.toNat = 0) : String.utf8EncodeChar c = [0] := by
  have hv : c.val.toNat = 0 := h
  unfold String.utf8EncodeChar
  dsimp only
  rw [hv, if_pos (by decide)]
  rfl

/-- Encoded text up to its first zero byte is the encoding of the characters before the first
zero character. -/
theorem beforeNul_flatMap : ∀ cs : List Char,
    beforeNul (cs.flatMap String.utf8EncodeChar) =
      (cs.takeWhile fun c => c.toNat ≠ 0).flatMap String.utf8EncodeChar
  | [] => rfl
  | c :: cs => by
    by_cases h : c.toNat = 0
    · rw [List.flatMap_cons, utf8EncodeChar_of_zero h, List.takeWhile_cons_of_neg (by simp [h])]
      rfl
    · have hpos : ∀ b ∈ String.utf8EncodeChar c, (b != 0) = true := fun b hb => by
        simpa using utf8EncodeChar_ne_zero h b hb
      rw [List.flatMap_cons, List.takeWhile_cons_of_pos (by simpa using h), List.flatMap_cons,
        beforeNul, List.takeWhile_append_of_pos hpos, ← beforeNul, beforeNul_flatMap cs]

end PackageRegistry.Sql
