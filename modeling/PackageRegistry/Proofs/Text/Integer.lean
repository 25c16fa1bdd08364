import Mathlib
import PackageRegistry.Text.Integer
/-!
# The texts that read as integers

`readInteger` without its recursion (`readInteger_eq_ok_iff`): an optional sign, then decimal
digits of any script in groups joined by single underscores (`DigitGroups`), at most
`maxIntegerDigits` of them, read in base ten.
-/

namespace PackageRegistry.Text

/-! ## Digit runs -/

/-- Decimal digits of any script in nonempty groups joined by single underscores; `ds` are the
digits' values, most significant first. -/
def DigitGroups (cs : List Char) (ds : List Nat) : Prop :=
  ∃ groups : List (List Char), groups ≠ [] ∧ (∀ g ∈ groups, g ≠ []) ∧
    cs = ['_'].intercalate groups ∧ groups.flatten.map decimalValue? = ds.map some

/-- A character with a decimal value is no underscore. -/
theorem ne_underscore_of_decimalValue? {c : Char} {d : Nat} (h : decimalValue? c = some d) :
    c ≠ '_' := by
  rintro rfl
  have hnone : decimalValue? '_' = none := by decide
  rw [hnone] at h
  cases h

/-- A nonempty run of digits alone is read digit by digit. -/
theorem digitRun_of_digits : ∀ {g : List Char} {dg : List Nat}, g ≠ [] →
    g.map decimalValue? = dg.map some → digitRun g = some dg
  | [c], [d], _, h => by simp_all [digitRun]
  | c :: c' :: g, d :: d' :: dg, _, h => by
    simp only [List.map_cons, List.cons.injEq] at h
    obtain ⟨hc, hc', hg⟩ := h
    have ih : digitRun (c' :: g) = some (d' :: dg) :=
      digitRun_of_digits (by simp) (by simp [hc', hg])
    rw [digitRun.eq_4 c (c' :: g) (by simp) (by simp [ne_underscore_of_decimalValue? hc']), ih, hc]
  | [_], [], _, h | [_], _ :: _ :: _, _, h | _ :: _ :: _, [], _, h
  | _ :: _ :: _, [_], _, h => by simp at h

/-- A group of digits and an underscore before a digit run: the group's digits come first. -/
theorem digitRun_append_underscore {rest : List Char} {ds : List Nat}
    (hrest : digitRun rest = some ds) : ∀ {g : List Char} {dg : List Nat}, g ≠ [] →
      g.map decimalValue? = dg.map some → digitRun (g ++ '_' :: rest) = some (dg ++ ds)
  | [c], [d], _, h => by simp_all [digitRun]
  | c :: c' :: g, d :: d' :: dg, _, h => by
    simp only [List.map_cons, List.cons.injEq] at h
    obtain ⟨hc, hc', hg⟩ := h
    have ih : digitRun ((c' :: g) ++ '_' :: rest) = some ((d' :: dg) ++ ds) :=
      digitRun_append_underscore hrest (by simp) (by simp [hc', hg])
    rw [List.cons_append, digitRun.eq_4 c _ (by simp) (by simp [ne_underscore_of_decimalValue? hc']),
      ih, hc]
    rfl
  | [_], [], _, h | [_], _ :: _ :: _, _, h | _ :: _ :: _, [], _, h
  | _ :: _ :: _, [_], _, h => by simp at h

/-- Digits in groups read as their values. -/
theorem digitRun_of_digitGroups {cs : List Char} {ds : List Nat} (h : DigitGroups cs ds) :
    digitRun cs = some ds := by
  obtain ⟨groups, hne, hgroups, rfl, hds⟩ := h
  -- one group at a time: the first group's digits, then the run after its underscore
  induction groups generalizing ds with
  | nil => exact absurd rfl hne
  | cons g gs ih =>
    simp only [List.flatten_cons, List.map_append] at hds
    obtain ⟨dg, ds', rfl, hg, hgs⟩ := List.map_eq_append_iff.mp hds.symm
    have hg0 := hgroups g List.mem_cons_self
    cases gs with
    | nil =>
      simp only [List.flatten_nil, List.map_nil, List.map_eq_nil_iff] at hgs
      rw [hgs, List.append_nil, List.intercalate_singleton]
      exact digitRun_of_digits hg0 hg.symm
    | cons g' gs =>
      have hrest := ih (by simp) (fun x hx => hgroups x (List.mem_cons_of_mem g hx)) hgs.symm
      rw [List.intercalate_cons_cons, List.append_assoc, List.singleton_append]
      exact digitRun_append_underscore hrest hg0 hg.symm

/-- A run that reads is digits in groups. -/
theorem digitGroups_of_digitRun {cs : List Char} {ds : List Nat} (h : digitRun cs = some ds) :
    DigitGroups cs ds := by
  -- each accepted run extends the groups of the run after its first digit
  fun_induction digitRun cs generalizing ds with
  | case1 => cases h
  | case2 c =>
    obtain ⟨d, hd, rfl⟩ := Option.map_eq_some_iff.mp h
    exact ⟨[[c]], by simp, by simp, by simp, by simp [hd]⟩
  | case3 c rest d ds' hrest hc ih =>
    obtain rfl := Option.some.inj h
    obtain ⟨groups, hne, hgroups, rfl, hds⟩ := ih hrest
    obtain ⟨g, gs, rfl⟩ := List.exists_cons_of_ne_nil hne
    refine ⟨[c] :: g :: gs, by simp, ?_, by simp [List.intercalate_cons_cons], ?_⟩
    · intro x hx
      rcases List.mem_cons.mp hx with rfl | hx
      · simp
      · exact hgroups x hx
    · rw [List.flatten_cons, List.map_append, hds]
      simp [hc]
  | case4 | case6 => cases h
  | case5 c rest hnil hund d ds' hrest hc ih =>
    obtain rfl := Option.some.inj h
    obtain ⟨groups, hne, hgroups, rfl, hds⟩ := ih hrest
    obtain ⟨g, gs, rfl⟩ := List.exists_cons_of_ne_nil hne
    refine ⟨(c :: g) :: gs, by simp, ?_, by simp [List.intercalate_cons_cons_left], ?_⟩
    · intro x hx
      rcases List.mem_cons.mp hx with rfl | hx
      · simp
      · exact hgroups x (List.mem_cons_of_mem g hx)
    · simpa [hc] using hds

/-- A run reads as digit values exactly when it is those digits in groups. -/
theorem digitRun_eq_some_iff {cs : List Char} {ds : List Nat} :
    digitRun cs = some ds ↔ DigitGroups cs ds :=
  ⟨digitGroups_of_digitRun, digitRun_of_digitGroups⟩

/-- Digits in groups start with a digit. -/
theorem DigitGroups.head_digit {c : Char} {rest : List Char} {ds : List Nat}
    (h : DigitGroups (c :: rest) ds) : ∃ d, decimalValue? c = some d := by
  obtain ⟨groups, hne, hgroups, hcs, hds⟩ := h
  obtain ⟨g, gs, rfl⟩ := List.exists_cons_of_ne_nil hne
  obtain ⟨x, xs, rfl⟩ := List.exists_cons_of_ne_nil (hgroups g List.mem_cons_self)
  rw [List.intercalate_cons_cons_left, List.cons.injEq] at hcs
  obtain ⟨rfl, -⟩ := hcs
  cases ds with
  | nil => simp at hds
  | cons d ds =>
    simp only [List.flatten_cons, List.cons_append, List.map_cons, List.cons.injEq] at hds
    exact ⟨d, hds.1⟩

/-! ## Values -/

/-- The value of digits read most significant first is the base-ten number they write. -/
theorem valueOfDigits_eq_ofDigits (ds : List Nat) :
    valueOfDigits ds = Nat.ofDigits 10 ds.reverse := by
  rw [valueOfDigits, List.foldl_eq_foldr_reverse]
  generalize ds.reverse = rs
  -- from the reversed end, each digit is added below the value of the more significant ones
  induction rs with
  | nil => rfl
  | cons d rs ih =>
    rw [List.foldr_cons, ih, Nat.ofDigits_cons]
    omega

/-- A run of decimal digits, as `DigitGroups` allows them, that writes `m` in at most
`maxIntegerDigits` digits. -/
def DecimalDigits (cs : List Char) (m : Nat) : Prop :=
  ∃ ds, DigitGroups cs ds ∧ ds.length ≤ maxIntegerDigits ∧ m = Nat.ofDigits 10 ds.reverse

/-- A run reads as a number exactly when it is that number's decimal digits. -/
theorem readDigitRun_eq_ok_iff {s : String} {cs : List Char} {m : Nat} :
    readDigitRun s cs = .ok m ↔ DecimalDigits cs m := by
  unfold readDigitRun DecimalDigits
  cases h : digitRun cs with
  | none =>
    simp only [reduceCtorEq, false_iff, not_exists, not_and]
    intro ds hds
    rw [← digitRun_eq_some_iff, h] at hds
    cases hds
  | some ds =>
    -- the groups of `cs` have only the values `digitRun` gives
    simp only [← digitRun_eq_some_iff, h, Option.some.injEq, exists_eq_left']
    split
    · simp only [reduceCtorEq, false_iff, not_and]
      omega
    · simp only [Except.ok.injEq, valueOfDigits_eq_ofDigits, eq_comm (a := m)]
      omega

/-- Decimal digits start with no sign. -/
theorem DecimalDigits.head_ne_sign {c : Char} {rest : List Char} {m : Nat}
    (h : DecimalDigits (c :: rest) m) : c ≠ '+' ∧ c ≠ '-' := by
  obtain ⟨ds, hds, -⟩ := h
  obtain ⟨d, hd⟩ := hds.head_digit
  have hplus : decimalValue? '+' = none := by decide
  have hminus : decimalValue? '-' = none := by decide
  constructor <;> rintro rfl <;> simp_all

/-! ## Integers -/

/-- The text of an integer: trimmed of blanks, a run of decimal digits, or one after `+`, or one
after `-` for its negative. -/
def IntegerText (s : String) (n : Int) : Prop :=
  (∃ m, DecimalDigits (trimBlanks s.toList) m ∧ n = m) ∨
    (∃ rest m, trimBlanks s.toList = '+' :: rest ∧ DecimalDigits rest m ∧ n = m) ∨
    (∃ rest m, trimBlanks s.toList = '-' :: rest ∧ DecimalDigits rest m ∧ n = -m)

/-- A mapped success is the map of a success. -/
theorem exceptMap_eq_ok_iff {ε α β : Type} {f : α → β} {x : Except ε α} {b : β} :
    x.map f = .ok b ↔ ∃ a, x = .ok a ∧ b = f a := by
  cases x <;> simp [Except.map, eq_comm]

/-- `readInteger` accepts exactly the texts of integers, with their values. -/
theorem readInteger_eq_ok_iff {s : String} {n : Int} : readInteger s = .ok n ↔ IntegerText s n := by
  unfold readInteger IntegerText
  split
  · next rest h =>
    have hdigits : ∀ m, ¬ DecimalDigits ('-' :: rest) m := fun m hm => hm.head_ne_sign.2 rfl
    simp [h, exceptMap_eq_ok_iff, readDigitRun_eq_ok_iff, hdigits]
  · next rest h =>
    have hdigits : ∀ m, ¬ DecimalDigits ('+' :: rest) m := fun m hm => hm.head_ne_sign.1 rfl
    simp [h, exceptMap_eq_ok_iff, readDigitRun_eq_ok_iff, hdigits]
  · next hminus hplus =>
    -- no sign comes first, so only the unsigned form is possible
    rw [exceptMap_eq_ok_iff]
    constructor
    · rintro ⟨m, hm, rfl⟩
      exact .inl ⟨m, readDigitRun_eq_ok_iff.mp hm, rfl⟩
    · rintro (⟨m, hm, rfl⟩ | ⟨rest, -, h, -⟩ | ⟨rest, -, h, -⟩)
      · exact ⟨m, readDigitRun_eq_ok_iff.mpr hm, rfl⟩
      · exact (hplus rest h).elim
      · exact (hminus rest h).elim

/-- Text reads as an integer exactly when it is that integer's text. -/
theorem readInteger?_eq_some_iff {s : String} {n : Int} :
    readInteger? s = some n ↔ IntegerText s n := by
  rw [← readInteger_eq_ok_iff, readInteger?]
  split <;> simp_all

example : readInteger? " -1_000 " = some (-1000) ∧ readInteger? "1__0" = none := by decide

end PackageRegistry.Text
