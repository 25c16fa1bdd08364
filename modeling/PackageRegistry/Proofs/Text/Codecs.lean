import Mathlib
import PackageRegistry.Proofs.Sql.TextBytes
import PackageRegistry.Auth.Credentials
/-!
# Base64 and UTF-8 read back what they write

Strict base64 decoding reads back every padded encoding (`base64Decode_base64Encode`), and strict
UTF-8 decoding the octets of every text (`decodeUtf8_utf8Bytes`). Text has a UTF-8 form exactly
when it holds no stand-in for an unpaired surrogate (`encodeUtf8_eq_ok_iff`).
-/

namespace PackageRegistry.Text

/-! ## Base64 -/

/-- Each of the 64 base64 characters reads back as its value. -/
theorem base64Value?_base64Char : ∀ v < 64, base64Value? (base64Char v) = some v := by
  decide +kernel

/-- No base64 character is the padding `=`. -/
theorem base64Char_ne_pad {v : Nat} (hv : v < 64) : base64Char v ≠ '=' := fun h => by
  have := base64Value?_base64Char v hv
  rw [h] at this
  cases this

/-- A base64 character is taken into the quad, which gives its bytes once full. -/
theorem base64From_data {st : Base64State} {c : Char} {v : Nat} (hc : base64Value? c = some v)
    (rest : List Char) :
    base64From st (c :: rest) =
      if st.padded then .error .discontinuousPadding
      else if st.quad.length = 3 then
        base64From { st with quad := [], pads := 0,
                             done := (quadOctets (st.quad ++ [v])).reverse ++ st.done } rest
      else base64From { st with quad := st.quad ++ [v], pads := 0 } rest := by
  have hne : c ≠ '=' := by
    rintro rfl
    cases hc
  rw [base64From.eq_3 _ _ _ hne, hc]

/-- The six-bit values of three octets, read back, are the octets. -/
theorem quadOctets_values (a b c : UInt8) :
    let n := a.toNat * 0x10000 + b.toNat * 0x100 + c.toNat
    quadOctets [n / 0x40000, n / 0x1000 % 64, n / 0x40 % 64, n % 64] = [a, b, c] := by
  intro n
  have ha := a.toNat_lt
  have hb := b.toNat_lt
  have hc := c.toNat_lt
  simp only [quadOctets, List.cons.injEq, and_true, ← UInt8.toNat_inj, UInt8.toNat_ofNat']
  omega

/-- Two bytes written into a quad read back as those bytes. -/
theorem quadOctets_two (a b : UInt8) :
    let n := a.toNat * 0x10000 + b.toNat * 0x100
    quadOctets [n / 0x40000, n / 0x1000 % 64, n / 0x40 % 64] = [a, b] := by
  intro n
  have ha := a.toNat_lt
  have hb := b.toNat_lt
  simp only [quadOctets, List.cons.injEq, and_true, ← UInt8.toNat_inj, UInt8.toNat_ofNat']
  omega

/-- One byte written into a quad reads back as that byte. -/
theorem quadOctets_one (a : UInt8) :
    let n := a.toNat * 0x10000
    quadOctets [n / 0x40000, n / 0x1000 % 64] = [a] := by
  intro n
  have ha := a.toNat_lt
  simp only [quadOctets, List.cons.injEq, and_true, ← UInt8.toNat_inj, UInt8.toNat_ofNat']
  omega

/-- Four data characters from the start of a quad complete it. -/
theorem base64From_quad {st : Base64State} (hq : st.quad = []) (hd : st.padded = false)
    {c₁ c₂ c₃ c₄ : Char} {v₁ v₂ v₃ v₄ : Nat} (h₁ : base64Value? c₁ = some v₁)
    (h₂ : base64Value? c₂ = some v₂) (h₃ : base64Value? c₃ = some v₃)
    (h₄ : base64Value? c₄ = some v₄) (rest : List Char) :
    base64From st (c₁ :: c₂ :: c₃ :: c₄ :: rest) =
      base64From
        { st with quad := [], pads := 0, done := (quadOctets [v₁, v₂, v₃, v₄]).reverse ++ st.done }
        rest := by
  rw [base64From_data h₁]
  simp only [hd, hq, List.length_nil, List.nil_append, Bool.false_eq_true, ↓reduceIte,
    Nat.reduceEqDiff]
  rw [base64From_data h₂]
  simp only [List.length_nil, List.length_cons, List.nil_append, List.cons_append,
    Bool.false_eq_true, ↓reduceIte, Nat.reduceAdd, Nat.reduceEqDiff]
  rw [base64From_data h₃]
  simp only [List.length_nil, List.length_cons, List.nil_append, List.cons_append,
    Bool.false_eq_true, ↓reduceIte, Nat.reduceAdd, Nat.reduceEqDiff]
  rw [base64From_data h₄]
  simp only [List.length_nil, List.length_cons, List.nil_append, List.cons_append,
    Bool.false_eq_true, ↓reduceIte, Nat.reduceAdd]

/-- Decoding the base64 of bytes from a fresh state gives the bytes after those decoded. -/
theorem base64From_encode (bs : List UInt8) : ∀ st : Base64State, st.quad = [] → st.pads = 0 →
    st.padded = false → base64From st (base64Encode bs).toList = .ok (st.done.reverse ++ bs) := by
  induction bs using base64Encode.induct with
  | case1 =>
    intro st hq _ _
    simp [base64Encode, base64From, hq, Base64State.octets, quadOctets]
  | case2 a =>
    intro st hq hp hd
    have ha := a.toNat_lt
    have h1 := base64Value?_base64Char (a.toNat * 0x10000 / 0x40000) (by omega)
    have h2 := base64Value?_base64Char (a.toNat * 0x10000 / 0x1000 % 64) (by omega)
    simp only [base64Encode, String.toList_ofList, base64From_data h1, base64From_data h2, hq, hd]
    simp [base64From, Base64State.octets, quadOctets_one]
  | case3 a b =>
    intro st hq _ hd
    have ha := a.toNat_lt
    have hb := b.toNat_lt
    have h1 := base64Value?_base64Char ((a.toNat * 0x10000 + b.toNat * 0x100) / 0x40000) (by omega)
    have h2 := base64Value?_base64Char ((a.toNat * 0x10000 + b.toNat * 0x100) / 0x1000 % 64)
      (by omega)
    have h3 := base64Value?_base64Char ((a.toNat * 0x10000 + b.toNat * 0x100) / 0x40 % 64)
      (by omega)
    simp only [base64Encode, String.toList_ofList, base64From_data h1, base64From_data h2,
      base64From_data h3, hq, hd]
    simp [base64From, Base64State.octets, quadOctets_two]
  | case4 a b c rest ih =>
    intro st hq _ hd
    have ha := a.toNat_lt
    have hb := b.toNat_lt
    have hc := c.toNat_lt
    have h1 := base64Value?_base64Char
      ((a.toNat * 0x10000 + b.toNat * 0x100 + c.toNat) / 0x40000) (by omega)
    have h2 := base64Value?_base64Char
      ((a.toNat * 0x10000 + b.toNat * 0x100 + c.toNat) / 0x1000 % 64) (by omega)
    have h3 := base64Value?_base64Char
      ((a.toNat * 0x10000 + b.toNat * 0x100 + c.toNat) / 0x40 % 64) (by omega)
    have h4 := base64Value?_base64Char
      ((a.toNat * 0x10000 + b.toNat * 0x100 + c.toNat) % 64) (by omega)
    rw [base64Encode, String.toList_append, String.toList_ofList, List.cons_append,
      List.cons_append, List.cons_append, List.cons_append, List.nil_append,
      base64From_quad hq hd h1 h2 h3 h4, ih]
    · rw [quadOctets_values]
      simp
    · rfl
    · rfl
    · exact hd

/-- The base64 of bytes never starts with the padding `=`. -/
theorem head_base64Encode_ne_pad (bs : List UInt8) :
    ∀ c ∈ (base64Encode bs).toList.head?, c ≠ '=' := by
  intro c hc
  have hfirst : ∀ n < 0x1000000, base64Char (n / 0x40000) ≠ '=' := fun n hn =>
    base64Char_ne_pad (by omega)
  cases bs using base64Encode.induct with
  | case1 => simp [base64Encode] at hc
  | case2 a =>
    simp only [base64Encode, String.toList_ofList, List.head?_cons, Option.mem_def,
      Option.some.injEq] at hc
    exact hc ▸ hfirst _ (by have := a.toNat_lt; omega)
  | case3 a b =>
    simp only [base64Encode, String.toList_ofList, List.head?_cons, Option.mem_def,
      Option.some.injEq] at hc
    exact hc ▸ hfirst _ (by have := a.toNat_lt; have := b.toNat_lt; omega)
  | case4 a b c' rest =>
    simp only [base64Encode, String.toList_append, String.toList_ofList, List.cons_append,
      List.head?_cons, Option.mem_def, Option.some.injEq] at hc
    exact hc ▸ hfirst _ (by have := a.toNat_lt; have := b.toNat_lt; have := c'.toNat_lt; omega)

/-- Strict decoding reads back every encoding. -/
theorem base64Decode_base64Encode (bs : List UInt8) : base64Decode (base64Encode bs) = .ok bs := by
  have h := base64From_encode bs {} rfl rfl rfl
  unfold base64Decode
  split
  · next rest hcs =>
    exact absurd rfl (head_base64Encode_ne_pad bs '=' (by simp [hcs]))
  · simpa using h

/-- Every base64 character is ASCII. -/
theorem base64Char_ascii (v : Nat) : (base64Char v).toNat < 0x80 := by
  by_cases hv : v < 64
  · exact (by decide +kernel : ∀ v < 64, (base64Char v).toNat < 0x80) v hv
  · have hlen : base64Alphabet.length = 64 := by decide +kernel
    rw [base64Char, List.getD_eq_default _ _ (by omega)]
    decide

/-- The base64 of bytes is ASCII. -/
theorem base64Encode_ascii (bs : List UInt8) :
    ∀ c ∈ (base64Encode bs).toList, c.toNat < 0x80 := by
  induction bs using base64Encode.induct with
  | case1 => simp [base64Encode]
  | case2 a | case3 a b =>
    simp only [base64Encode, String.toList_ofList]
    intro c hc
    simp only [List.mem_cons, List.not_mem_nil, or_false] at hc
    rcases hc with rfl | rfl | rfl | rfl <;> simp [base64Char_ascii]
  | case4 a b c rest ih =>
    simp only [base64Encode, String.toList_append, String.toList_ofList, List.mem_append]
    intro x hx
    rcases hx with hx | hx
    · simp only [List.mem_cons, List.not_mem_nil, or_false] at hx
      rcases hx with rfl | rfl | rfl | rfl <;> exact base64Char_ascii _
    · exact ih x hx

/-! ## UTF-8 -/

/-- A number below 256 is kept by a byte. -/
theorem toNat_ofNat_of_lt {k : Nat} (h : k < 256) : (UInt8.ofNat k).toNat = k :=
  UInt8.toNat_ofNat_of_lt' (by simpa using h)

/-- Six low bits after `10` make a continuation byte. -/
theorem isContinuation_continuation (k : Nat) : isContinuation (k % 64 + 0x80) = true := by
  simp only [isContinuation, Bool.and_eq_true, decide_eq_true_eq]
  omega

/-- The encoding of a character reads back as the character, spanning its octets. -/
theorem utf8Step_utf8EncodeChar (c : Char) (rest : List Nat) :
    utf8Step ((String.utf8EncodeChar c).map (·.toNat) ++ rest) =
      .char c (String.utf8EncodeChar c).length := by
  have hvalid := c.valid
  simp only [UInt32.isValidChar, Nat.isValidChar] at hvalid
  have hc : Char.ofNat c.val.toNat = c := Char.ofNat_toNat c
  unfold String.utf8EncodeChar
  generalize c.val.toNat = v at hvalid hc ⊢
  subst hc
  by_cases h1 : v ≤ 0x7f
  · simp [h1, toNat_ofNat_of_lt (show v < 256 by omega), utf8Step, show v < 0x80 by omega]
  by_cases h2 : v ≤ 0x7ff
  · have ha : (UInt8.ofNat (v / 64 % 32 + 0xc0)).toNat = v / 64 % 32 + 0xc0 :=
      toNat_ofNat_of_lt (by omega)
    have hb : (UInt8.ofNat (v % 64 + 0x80)).toNat = v % 64 + 0x80 := toNat_ofNat_of_lt (by omega)
    rw [if_neg h1, if_pos h2]
    simp only [List.map_cons, List.map_nil, ha, hb, List.cons_append, List.nil_append, utf8Step]
    rw [if_neg (by omega), if_neg (by omega), if_pos (by omega),
      if_pos (isContinuation_continuation v), sequenceChar,
      show (v / 64 % 32 + 192) % 0x20 * 0x40 + (v % 64 + 128) % 0x40 = v by omega]
    rfl
  by_cases h3 : v ≤ 0xffff
  · have ha : (UInt8.ofNat (v / 4096 % 16 + 0xe0)).toNat = v / 4096 % 16 + 0xe0 :=
      toNat_ofNat_of_lt (by omega)
    have hb : (UInt8.ofNat (v / 64 % 64 + 0x80)).toNat = v / 64 % 64 + 0x80 :=
      toNat_ofNat_of_lt (by omega)
    have hc : (UInt8.ofNat (v % 64 + 0x80)).toNat = v % 64 + 0x80 := toNat_ofNat_of_lt (by omega)
    rw [if_neg h1, if_neg h2, if_pos h3]
    simp only [List.map_cons, List.map_nil, ha, hb, hc, List.cons_append, List.nil_append,
      utf8Step]
    rw [if_neg (by omega), if_neg (by omega), if_neg (by omega), if_pos (by omega)]
    -- the second octet rules out overlong forms (after E0) and surrogates (after ED)
    have hsecond : (if v / 64 % 64 + 128 < 160 then v / 4096 % 16 + 224 == 224
        else v / 4096 % 16 + 224 == 237) = false := by
      split_ifs <;> simp only [beq_eq_false_iff_ne, ne_eq] <;> omega
    simp only [hsecond, isContinuation_continuation, Bool.not_false, Bool.and_self,
      Bool.not_true, Bool.false_eq_true, if_false, sequenceChar, List.length_cons,
      List.length_nil]
    rw [show (v / 4096 % 16 + 224) % 0x10 * 0x1000 + (v / 64 % 64 + 128) % 0x40 * 0x40 +
      (v % 64 + 128) % 0x40 = v by omega]
  have ha : (UInt8.ofNat (v / 262144 % 8 + 0xf0)).toNat = v / 262144 % 8 + 0xf0 :=
    toNat_ofNat_of_lt (by omega)
  have hb : (UInt8.ofNat (v / 4096 % 64 + 0x80)).toNat = v / 4096 % 64 + 0x80 :=
    toNat_ofNat_of_lt (by omega)
  have hc : (UInt8.ofNat (v / 64 % 64 + 0x80)).toNat = v / 64 % 64 + 0x80 :=
    toNat_ofNat_of_lt (by omega)
  have hd : (UInt8.ofNat (v % 64 + 0x80)).toNat = v % 64 + 0x80 := toNat_ofNat_of_lt (by omega)
  rw [if_neg h1, if_neg h2, if_neg h3]
  simp only [List.map_cons, List.map_nil, ha, hb, hc, hd, List.cons_append, List.nil_append,
    utf8Step]
  rw [if_neg (by omega), if_neg (by omega), if_neg (by omega), if_neg (by omega),
    if_pos (by omega)]
  -- the second octet rules out overlong forms (after F0) and code points past U+10FFFF (after F4)
  have hsecond : (if v / 4096 % 64 + 128 < 144 then v / 262144 % 8 + 240 == 240
      else v / 262144 % 8 + 240 == 244) = false := by
    split_ifs <;> simp only [beq_eq_false_iff_ne, ne_eq] <;> omega
  simp only [hsecond, isContinuation_continuation, Bool.not_false, Bool.and_self,
    Bool.not_true, Bool.false_eq_true, if_false, sequenceChar, List.length_cons,
    List.length_nil]
  rw [show (v / 262144 % 8 + 240) % 0x08 * 0x40000 + (v / 4096 % 64 + 128) % 0x40 * 0x1000 +
    (v / 64 % 64 + 128) % 0x40 * 0x40 + (v % 64 + 128) % 0x40 = v by omega]

/-- Decoding the encodings of characters gathers them after those read so far. -/
theorem decodeFrom_encoded (cs : List Char) : ∀ (acc : List Char) (position : Nat),
    decodeFrom acc position ((cs.flatMap String.utf8EncodeChar).map (·.toNat)) =
      .ok (acc.reverse ++ cs) := by
  induction cs with
  | nil => intro acc position; simp [decodeFrom]
  | cons c cs ih =>
    intro acc position
    have hne : String.utf8EncodeChar c ≠ [] := by
      rw [← List.length_pos_iff, String.length_utf8EncodeChar]
      exact Char.utf8Size_pos c
    obtain ⟨b, bs, hbs⟩ := List.exists_cons_of_ne_nil hne
    have hstep := utf8Step_utf8EncodeChar c ((cs.flatMap String.utf8EncodeChar).map (·.toNat))
    rw [List.flatMap_cons, List.map_append]
    rw [hbs, List.map_cons, List.cons_append] at hstep ⊢
    rw [decodeFrom, hstep]
    have hdrop : ((b.toNat :: (bs.map (·.toNat) ++
        (cs.flatMap String.utf8EncodeChar).map (·.toNat))).drop (max (b :: bs).length 1)) =
        (cs.flatMap String.utf8EncodeChar).map (·.toNat) := by
      simp
    simp only [hdrop, ih, List.reverse_cons, List.append_assoc, List.singleton_append]

/-- Strict decoding reads back the UTF-8 octets of every text. -/
theorem decodeUtf8_utf8Bytes (s : String) : decodeUtf8 (utf8Bytes s) = .ok s := by
  have hbytes : utf8Bytes s = s.toList.flatMap String.utf8EncodeChar :=
    Sql.SqlValue.text.inj (Sql.ofString_eq s)
  rw [decodeUtf8, hbytes, decodeFrom_encoded]
  simp

/-- Text has a UTF-8 encoding exactly when it holds no stand-in for an unpaired surrogate; the
encoding is then its octets. -/
theorem encodeUtf8_eq_ok_iff {s : String} {bs : List UInt8} :
    encodeUtf8 s = .ok bs ↔ (∀ c ∈ s.toList, isStandIn c = false) ∧ bs = utf8Bytes s := by
  unfold encodeUtf8
  dsimp only
  split
  · next h =>
    rw [List.findIdx?_eq_none_iff] at h
    simp only [Except.ok.injEq]
    exact ⟨fun hb => ⟨h, hb.symm⟩, fun ⟨_, hb⟩ => hb.symm⟩
  · next i h =>
    obtain ⟨hi, hstand, -⟩ := List.findIdx?_eq_some_iff_getElem.mp h
    simp only [reduceCtorEq, false_iff, not_and]
    intro hall
    exact absurd (hall _ (List.getElem_mem hi)) (by simp [hstand])

end PackageRegistry.Text
