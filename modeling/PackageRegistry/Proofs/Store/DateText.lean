import Mathlib
import PackageRegistry.Proofs.Sql.TextBytes
import PackageRegistry.Store.Timestamp
/-!
# The byte order of dates

Timestamps are stored as `YYYY-MM-DD HH:MM:SS.ffffff` and a search writes `YYYY-MM-DD`; the
database compares bytes, so dates compare as days, and a timestamp sorts after its own day's
date (`compareBytes_storedDate`).
-/

namespace PackageRegistry.Sql

/-! ## Reading dates as numbers -/

/-- A digit byte is no space. -/
theorem isSpaceByte_of_isDigitByte {b : UInt8} (h : isDigitByte b = true) :
    isSpaceByte b = false := by
  have h48 : (48 : UInt8).toNat = 48 := rfl
  have h57 : (57 : UInt8).toNat = 57 := rfl
  have h32 : (32 : UInt8).toNat = 32 := rfl
  have h9 : (9 : UInt8).toNat = 9 := rfl
  have h13 : (13 : UInt8).toNat = 13 := rfl
  simp only [isDigitByte, Bool.and_eq_true, decide_eq_true_eq, UInt8.le_iff_toNat_le, h48,
    h57] at h
  simp only [isSpaceByte, Bool.or_eq_false_iff, beq_eq_false_iff_ne, ne_eq, UInt8.ext_iff,
    Bool.and_eq_false_imp, decide_eq_true_eq, decide_eq_false_iff_not, UInt8.le_iff_toNat_le,
    h32, h9, h13]
  omega

/-- Gathering digits stops at the first byte that is not one, whether or not the significand
reached its limit on the way. -/
theorem wholeDigits_rest {c : UInt8} (hc : isDigitByte c = false) (rest : List UInt8) :
    ∀ (ds : List UInt8), (∀ b ∈ ds, isDigitByte b = true) → ∀ (s : Nat) (d : Int) (n : Nat),
      (wholeDigits s d n (ds ++ c :: rest)).2.2.2 = c :: rest
  | [], _, s, d, n => by simp [wholeDigits, hc]
  | b :: ds, hds, s, d, n => by
    have hb : isDigitByte b = true := hds b List.mem_cons_self
    have hds' : ∀ x ∈ ds, isDigitByte x = true := fun x hx => hds x (List.mem_cons_of_mem b hx)
    have htake : (ds ++ c :: rest).takeWhile isDigitByte = ds := by
      rw [List.takeWhile_append_of_pos hds', List.takeWhile_cons_of_neg (by simp [hc]),
        List.append_nil]
    rw [List.cons_append, wholeDigits, if_pos hb]
    dsimp only
    split
    · -- past the limit the remaining digits are skipped in one step
      simp [htake]
    · exact wholeDigits_rest hc rest ds hds' _ _ _

/-- Text whose leading digits are followed by `-` is no number: it is not one as a whole, and
what it starts with has neither a point nor an exponent. -/
theorem readReal_code_of_dash {ds : List UInt8} (hds : ∀ b ∈ ds, isDigitByte b = true)
    (hne : ds ≠ []) (rest : List UInt8) : (readReal (ds ++ 45 :: rest)).code = 0 := by
  obtain ⟨b, ds, rfl⟩ := List.exists_cons_of_ne_nil hne
  have hb : isDigitByte b = true := hds b List.mem_cons_self
  have hw : (wholeDigits 0 0 0 (b :: (ds ++ 45 :: rest))).2.2.2 = 45 :: rest :=
    wholeDigits_rest (by decide) rest (b :: ds) hds 0 0 0
  -- the first byte is a digit: no blank to skip and no sign
  have h45 : b ≠ 45 := fun h => by subst h; exact absurd hb (by decide)
  have h43 : b ≠ 43 := fun h => by subst h; exact absurd hb (by decide)
  have hpoint : (45 : UInt8) ≠ 46 := by decide
  have hexp : ((45 : UInt8) == 101 || (45 : UInt8) == 69) = false := by decide
  have hblank : ¬ isSpaceByte 45 = true := by decide
  unfold readReal
  rw [List.cons_append, List.dropWhile_cons_of_neg (by simp [isSpaceByte_of_isDigitByte hb])]
  simp only [List.isEmpty_cons, Bool.false_eq_true, if_false, List.cons.injEq, h45, h43,
    false_and, imp_false, not_false_eq_true, implies_true, hw, hpoint, hexp,
    List.dropWhile_cons_of_neg hblank]
  simp

/-! ## Comparing bytes -/

/-- Byte lists compared after prefixes of one length: the prefixes decide, and the rest only
when they are equal. -/
theorem compareBytes_append :
    ∀ {xs ys : List UInt8}, xs.length = ys.length → ∀ xs' ys',
      compareBytes (xs ++ xs') (ys ++ ys') = (compareBytes xs ys).then (compareBytes xs' ys')
  | [], [], _, xs', ys' => rfl
  | x :: xs, y :: ys, h, xs', ys' => by
    have hlen : xs.length = ys.length := by simpa using h
    have ih := compareBytes_append hlen xs' ys'
    simp only [List.cons_append, compareBytes]
    split_ifs <;> simp [Ordering.then, ih]

/-- Texts starting with the same byte compare as what follows it. -/
theorem compareBytes_cons_self (b : UInt8) (xs ys : List UInt8) :
    compareBytes (b :: xs) (b :: ys) = compareBytes xs ys := by
  simp [compareBytes]

end PackageRegistry.Sql

namespace PackageRegistry.Store

open PackageRegistry.Sql

/-! ## Fixed-width numbers -/

/-- The last `w` decimal digits of a number, leading zeros first. -/
def decimalDigits : Nat → Nat → List Char
  | 0, _ => []
  | w + 1, n => decimalDigits w (n / 10) ++ [Nat.digitChar (n % 10)]

/-- A number written in `w` digits has `w` characters. -/
theorem decimalDigits_length : ∀ w n, (decimalDigits w n).length = w
  | 0, _ => rfl
  | w + 1, n => by simp [decimalDigits, decimalDigits_length w]

/-- Zero written in `w` digits is `w` zeros. -/
theorem decimalDigits_zero : ∀ w, decimalDigits w 0 = List.replicate w '0'
  | 0 => rfl
  | w + 1 => by
    rw [decimalDigits, Nat.zero_div, decimalDigits_zero w, Nat.zero_mod, List.replicate_succ']
    rfl

/-- A number written in digits holds only `0` to `9`. -/
theorem decimalDigits_ascii : ∀ (w n : Nat), ∀ c ∈ decimalDigits w n,
    48 ≤ c.toNat ∧ c.toNat ≤ 57
  | 0, _, _, h => absurd h List.not_mem_nil
  | w + 1, n, c, h => by
    rw [decimalDigits, List.mem_append, List.mem_singleton] at h
    rcases h with h | rfl
    · exact decimalDigits_ascii w (n / 10) c h
    · rw [Nat.toNat_digitChar_of_lt_ten (Nat.mod_lt n (by decide))]
      omega

/-- The digits of a number below `10^(w+1)`, zeros put before them up to `w+1` places. -/
theorem toDigits_padded : ∀ (w n : Nat), n < 10 ^ (w + 1) →
    List.replicate (w + 1 - (Nat.toDigits 10 n).length) '0' ++ Nat.toDigits 10 n =
      decimalDigits (w + 1) n
  | 0, n, h => by
    have hn : n < 10 := by simpa using h
    rw [Nat.toDigits_of_lt_base hn, decimalDigits, decimalDigits, Nat.mod_eq_of_lt hn]
    rfl
  | w + 1, n, h => by
    by_cases hn : n < 10
    · rw [Nat.toDigits_of_lt_base hn, decimalDigits, Nat.div_eq_of_lt hn, decimalDigits_zero,
        Nat.mod_eq_of_lt hn]
      simp
    · -- the last digit is split off on both sides
      have hq : 0 < n / 10 := by omega
      have hsplit : Nat.toDigits 10 n = Nat.toDigits 10 (n / 10) ++ [Nat.digitChar (n % 10)] := by
        rw [← Nat.toDigits_of_lt_base (Nat.mod_lt n (by decide)),
          Nat.toDigits_append_toDigits (by decide) hq (Nat.mod_lt n (by decide)),
          Nat.div_add_mod]
      have hlt : n / 10 < 10 ^ (w + 1) := by
        rw [pow_succ] at h
        omega
      rw [hsplit, decimalDigits, ← toDigits_padded w (n / 10) hlt]
      simp only [List.length_append, List.length_singleton, List.append_assoc]
      congr 2
      omega

/-- A number below `10^(w+1)` padded to `w+1` places is its `w+1` decimal digits. -/
theorem padded_toList {w n : Nat} (h : n < 10 ^ (w + 1)) :
    (padded (w + 1) n).toList = decimalDigits (w + 1) n := by
  rw [padded, String.toList_append, Nat.toString_eq_ofList_toDigits, String.toList_ofList,
    String.toList_ofList, String.length_ofList, toDigits_padded w n h]

/-- Two numbers compare as their quotients by ten, and then as their last digits. -/
theorem compare_div_mod (a b : Nat) :
    (compare (a / 10) (b / 10)).then (compare (a % 10) (b % 10)) = compare a b := by
  rcases lt_trichotomy (a / 10) (b / 10) with h | h | h
  · have hab : a < b := by omega
    rw [compare_lt_iff_lt.mpr h, compare_lt_iff_lt.mpr hab]
    rfl
  · rw [h, compare_eq_iff_eq.mpr rfl]
    rcases lt_trichotomy (a % 10) (b % 10) with h' | h' | h'
    · have hab : a < b := by omega
      rw [compare_lt_iff_lt.mpr h', compare_lt_iff_lt.mpr hab]
      rfl
    · have hab : a = b := by omega
      rw [h', compare_eq_iff_eq.mpr hab, compare_eq_iff_eq.mpr rfl]
      rfl
    · have hab : b < a := by omega
      rw [compare_gt_iff_gt.mpr h', compare_gt_iff_gt.mpr hab]
      rfl
  · have hab : b < a := by omega
    rw [compare_gt_iff_gt.mpr h, compare_gt_iff_gt.mpr hab]
    rfl

/-- A digit's character is the byte 48 after `0`. -/
theorem digitChar_toUInt8 {k : Nat} (h : k < 10) : (Nat.digitChar k).toUInt8.toNat = 48 + k := by
  have hbyte : (Nat.digitChar k).toUInt8.toNat = (Nat.digitChar k).toNat % 256 := rfl
  rw [hbyte, Nat.toNat_digitChar_of_lt_ten h]
  omega

/-- Last digits compare, as bytes, as the digits. -/
theorem compareBytes_digit (a b : Nat) :
    compareBytes [(Nat.digitChar (a % 10)).toUInt8] [(Nat.digitChar (b % 10)).toUInt8] =
      compare (a % 10) (b % 10) := by
  have hx := digitChar_toUInt8 (Nat.mod_lt a (by decide : 10 > 0))
  have hy := digitChar_toUInt8 (Nat.mod_lt b (by decide : 10 > 0))
  simp only [compareBytes, UInt8.lt_iff_toNat_lt, hx, hy]
  rcases lt_trichotomy (a % 10) (b % 10) with h | h | h
  · rw [if_pos (by omega), compare_lt_iff_lt.mpr h]
  · rw [if_neg (by omega), if_neg (by omega), h, compare_eq_iff_eq.mpr rfl]
  · rw [if_neg (by omega), if_pos (by omega), compare_gt_iff_gt.mpr h]

/-- Numbers written with the same number of digits compare, byte by byte, as the numbers. -/
theorem compareBytes_decimalDigits : ∀ (w a b : Nat), a < 10 ^ w → b < 10 ^ w →
    compareBytes ((decimalDigits w a).map Char.toUInt8) ((decimalDigits w b).map Char.toUInt8) =
      compare a b
  | 0, a, b, ha, hb => by
    have : a = 0 := by simpa using ha
    have : b = 0 := by simpa using hb
    subst_vars
    rfl
  | w + 1, a, b, ha, hb => by
    rw [pow_succ] at ha hb
    -- the leading digits write the quotients by ten, and the last digit decides ties
    have ih := compareBytes_decimalDigits w (a / 10) (b / 10) (by omega) (by omega)
    simp only [decimalDigits, List.map_append, List.map_singleton]
    rw [compareBytes_append (by simp [decimalDigits_length]), ih, compareBytes_digit a]
    exact compare_div_mod a b

/-! ## Dates -/

/-- The date of a timestamp written in full by `YYYY-MM-DD`: a year below 10000, a month and a
day below 100. -/
structure Timestamp.DateFits (t : Timestamp) : Prop where
  year_lt : t.year < 10000
  month_lt : t.month < 100
  day_lt : t.day < 100

/-- The day of a timestamp: its year, month and day, in the order that compares calendar days. -/
def Timestamp.calendarDay (t : Timestamp) : List Nat := [t.year, t.month, t.day]

/-- The bytes of the date part of a timestamp whose date fits. -/
def Timestamp.dateBytes (t : Timestamp) : List UInt8 :=
  (decimalDigits 4 t.year ++ '-' :: (decimalDigits 2 t.month ++ '-' :: decimalDigits 2 t.day)).map
    Char.toUInt8

/-- A date that fits is written as four digits, a dash, two digits, a dash, two digits. -/
theorem Timestamp.dateText_toList {t : Timestamp} (h : t.DateFits) :
    t.dateText.toList =
      decimalDigits 4 t.year ++ '-' :: (decimalDigits 2 t.month ++ '-' :: decimalDigits 2 t.day) := by
  rw [Timestamp.dateText, String.toList_append, String.toList_append, String.toList_append,
    String.toList_append, @padded_toList 3 t.year h.year_lt, @padded_toList 1 t.month h.month_lt,
    @padded_toList 1 t.day h.day_lt]
  simp

/-- A date that fits is written in ASCII. -/
theorem Timestamp.dateText_ascii {t : Timestamp} (h : t.DateFits) :
    ∀ c ∈ t.dateText.toList, c.toNat < 128 := by
  intro c hc
  rw [t.dateText_toList h] at hc
  simp only [List.mem_append, List.mem_cons] at hc
  have hdash : '-'.toNat < 128 := by decide
  rcases hc with hc | rfl | hc | rfl | hc
  · have := decimalDigits_ascii 4 t.year c hc
    omega
  · exact hdash
  · have := decimalDigits_ascii 2 t.month c hc
    omega
  · exact hdash
  · have := decimalDigits_ascii 2 t.day c hc
    omega

/-- Bound as text, the date of a timestamp whose date fits is its date bytes. -/
theorem Timestamp.ofString_dateText {t : Timestamp} (h : t.DateFits) :
    SqlValue.ofString t.dateText = .text t.dateBytes := by
  rw [ofString_of_ascii (t.dateText_ascii h), t.dateText_toList h]
  rfl

/-- Stored, a timestamp whose date fits is its date bytes, a space and more. -/
theorem Timestamp.ofString_storageText {t : Timestamp} (h : t.DateFits) :
    ∃ rest, SqlValue.ofString t.storageText = .text (t.dateBytes ++ 32 :: rest) := by
  have hspace : " ".toList = [' '] := by simp
  have htext : t.storageText.toList =
      t.dateText.toList ++ ' ' :: (t.clockText ++ "." ++ padded 6 t.micro).toList := by
    rw [Timestamp.storageText, String.append_assoc, String.append_assoc, String.append_assoc,
      String.toList_append, String.toList_append, hspace, ← String.append_assoc]
    rfl
  refine ⟨(t.clockText ++ "." ++ padded 6 t.micro).toList.flatMap String.utf8EncodeChar, ?_⟩
  rw [ofString_eq, htext, List.flatMap_append,
    flatMap_utf8EncodeChar_of_ascii _ (t.dateText_ascii h), t.dateText_toList h,
    List.flatMap_cons, show String.utf8EncodeChar ' ' = [32] by decide, List.singleton_append,
    Timestamp.dateBytes]

/-- The bytes of two dates compare as their years, then months, then days. -/
theorem compareBytes_dateBytes {t u : Timestamp} (ht : t.DateFits) (hu : u.DateFits) :
    compareBytes t.dateBytes u.dateBytes =
      (compare t.year u.year).then ((compare t.month u.month).then (compare t.day u.day)) := by
  simp only [Timestamp.dateBytes, List.map_append, List.map_cons]
  rw [compareBytes_append (by simp [decimalDigits_length]),
    compareBytes_decimalDigits 4 _ _ ht.year_lt hu.year_lt, compareBytes_cons_self,
    compareBytes_append (by simp [decimalDigits_length]),
    compareBytes_decimalDigits 2 _ _ ht.month_lt hu.month_lt, compareBytes_cons_self,
    compareBytes_decimalDigits 2 _ _ ht.day_lt hu.day_lt]

/-- Years, months and days compared in turn order days as lists do. -/
theorem compare_then_lt_iff (a b c a' b' c' : Nat) :
    (compare a a').then ((compare b b').then (compare c c')) = .lt ↔ [a, b, c] < [a', b', c'] := by
  simp only [Ordering.then_eq_lt, compare_lt_iff_lt, compare_eq_iff_eq,
    List.cons_lt_cons_iff, List.not_lt_nil, and_false, or_false]

/-- An order decided by a greater second key is less only when the first says so. -/
theorem Ordering.then_gt (o : Ordering) : o.then .gt = if o = .lt then .lt else .gt := by
  cases o <;> rfl

/-- A stored timestamp against a date: the timestamp sorts before the date when its day is
earlier, and after it otherwise, on the date's own day too. -/
theorem compareBytes_storedDate {t u : Timestamp} (ht : t.DateFits) (hu : u.DateFits)
    (rest : List UInt8) :
    compareBytes (t.dateBytes ++ 32 :: rest) u.dateBytes =
      if t.calendarDay < u.calendarDay then .lt else .gt := by
  have hlen : t.dateBytes.length = u.dateBytes.length := by
    simp [Timestamp.dateBytes, decimalDigits_length]
  rw [← List.append_nil u.dateBytes, compareBytes_append hlen, compareBytes_dateBytes ht hu, show compareBytes (32 :: rest) [] = .gt from rfl,
    Ordering.then_gt]
  simp only [compare_then_lt_iff]
  rfl

/-- Neither the date of a timestamp nor a text that begins with it reads as a number. -/
theorem Timestamp.readReal_dateBytes_code (t : Timestamp) (rest : List UInt8) :
    (readReal (t.dateBytes ++ rest)).code = 0 := by
  have hdigits : ∀ b ∈ (decimalDigits 4 t.year).map Char.toUInt8, isDigitByte b = true := by
    intro b hb
    obtain ⟨c, hc, rfl⟩ := List.mem_map.mp hb
    have hcode := decimalDigits_ascii 4 t.year c hc
    have hbyte : c.toUInt8.toNat = c.toNat % 256 := rfl
    have h48 : (48 : UInt8).toNat = 48 := rfl
    have h57 : (57 : UInt8).toNat = 57 := rfl
    simp only [isDigitByte, Bool.and_eq_true, decide_eq_true_eq, UInt8.le_iff_toNat_le, hbyte,
      h48, h57]
    omega
  have hne : (decimalDigits 4 t.year).map Char.toUInt8 ≠ [] := by
    simp [← List.length_pos_iff, decimalDigits_length]
  have hbytes : t.dateBytes ++ rest = (decimalDigits 4 t.year).map Char.toUInt8 ++ 45 ::
      (((decimalDigits 2 t.month ++ '-' :: decimalDigits 2 t.day)).map Char.toUInt8 ++ rest) := by
    simp [Timestamp.dateBytes]
    rfl
  rw [hbytes]
  exact readReal_code_of_dash hdigits hne _

end PackageRegistry.Store
