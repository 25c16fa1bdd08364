/-!
# Unpaired surrogates

Text read from JSON may hold a surrogate escape with no other half, kept as a stand-in: the
plane-16 character at the unit's offset, `U+10D800`–`U+10DFFF`. UTF-8 encoding refuses it.

Text stays a plain `String`, so the stand-ins share their code points with the genuine
private-use characters `U+10D800`–`U+10DFFF`: such a character, read from JSON, is taken for the
unpaired surrogate it would stand for. UTF-8 encoding refuses it, JSON output and quoted
literals write it as that surrogate's escape, and a date holding it is malformed, where the
character itself would be encoded, written and read as any other. Only that range of plane 16 is
affected.
-/

namespace PackageRegistry.Text

/-- The distance from a surrogate code unit to its stand-in. -/
def standInOffset : Nat := 0x100000

def isSurrogateUnit (u : Nat) : Bool := 0xD800 ≤ u && u ≤ 0xDFFF

/-- The character standing for a surrogate code unit. -/
def surrogateStandIn (u : Nat) : Char := Char.ofNat (standInOffset + u)

/-- The surrogate code unit a character stands for, when it is a stand-in. -/
def standInUnit? (c : Char) : Option Nat :=
  if standInOffset ≤ c.toNat && isSurrogateUnit (c.toNat - standInOffset) then
    some (c.toNat - standInOffset)
  else none

/-- The code point of a character made from a valid one is that number. -/
theorem toNat_ofNat_valid (n : Nat) (h : n.isValidChar) : (Char.ofNat n).toNat = n := by
  unfold Char.ofNat Char.ofNatAux Char.toNat
  simp [h]

/-- A stand-in gives back the surrogate it stands for. -/
theorem standInUnit_surrogateStandIn (u : Nat) (h : isSurrogateUnit u = true) :
    standInUnit? (surrogateStandIn u) = some u := by
  simp only [isSurrogateUnit, Bool.and_eq_true, decide_eq_true_eq] at h
  have hv : (standInOffset + u).isValidChar := by
    unfold standInOffset; unfold Nat.isValidChar; omega
  have key : (surrogateStandIn u).toNat = standInOffset + u := toNat_ofNat_valid _ hv
  simp [standInUnit?, key, isSurrogateUnit, h.1, h.2]

end PackageRegistry.Text
