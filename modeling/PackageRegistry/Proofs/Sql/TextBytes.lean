import Mathlib
import PackageRegistry.Sql.Value
/-!
# The bytes of text values

Text bound to a query is held as its UTF-8 bytes (`SqlValue.ofString`). The bytes of a string
are the encodings of its characters one after another (`ofString_eq`), and text of ASCII
characters is the list of their codes (`ofString_of_ascii`).
-/

namespace PackageRegistry.Sql

/-- Reading a byte array into a list from a position `i` puts what was read so far, `r` in
reverse, before the bytes from `i` on. -/
theorem toList_loop (bs : ByteArray) (i : Nat) (r : List UInt8) :
    ByteArray.toList.loop bs i r = r.reverse ++ bs.data.toList.drop i := by
  induction i, r using ByteArray.toList.loop.induct bs with
  | case1 i r hlt ih =>
    rw [ByteArray.toList.loop, if_pos hlt, ih]
    have hi : i < bs.data.toList.length := by simpa using hlt
    have hget : bs.get! i = bs.data.toList[i] := by
      simp only [ByteArray.get!, Array.getElem_toList]
      exact getElem!_pos bs.data i (by simpa using hlt)
    rw [List.drop_eq_getElem_cons hi, hget]
    simp
  | case2 i r hge =>
    rw [ByteArray.toList.loop, if_neg hge]
    have : bs.data.toList.length ≤ i := by simpa using hge
    simp [List.drop_eq_nil_of_le this]

/-- A byte array's list is its data's. -/
theorem ByteArray.toList_eq_data (bs : ByteArray) : bs.toList = bs.data.toList := by
  rw [ByteArray.toList, toList_loop]
  simp

/-- The bytes of text are the UTF-8 encodings of its characters, one after another. -/
theorem ofString_eq (s : String) :
    SqlValue.ofString s = .text (s.toList.flatMap String.utf8EncodeChar) := by
  rw [SqlValue.ofString, String.toUTF8, ← String.utf8Encode_toList, List.utf8Encode,
    ByteArray.toList_eq_data, List.data_toByteArray, List.toList_toArray]

/-- ASCII text is its own UTF-8, byte for character. -/
theorem flatMap_utf8EncodeChar_of_ascii (l : List Char) (h : ∀ c ∈ l, c.toNat < 128) :
    l.flatMap String.utf8EncodeChar = l.map Char.toUInt8 := by
  induction l with
  | nil => rfl
  | cons c l ih =>
    -- an ASCII character is one byte, its code
    have hc : c.utf8Size = 1 := by
      rw [Char.utf8Size_eq_one_iff, UInt32.le_iff_toNat_le]
      have h1 := h c List.mem_cons_self
      have h2 : c.toNat = c.val.toNat := rfl
      have h3 : (127 : UInt32).toNat = 127 := rfl
      omega
    rw [List.flatMap_cons, String.utf8EncodeChar_eq_singleton hc, Char.toUInt8_val, List.map_cons,
      ih fun d hd => h d (List.mem_cons_of_mem c hd)]
    rfl

/-- ASCII text is stored as its character bytes. -/
theorem ofString_of_ascii {s : String} (h : ∀ c ∈ s.toList, c.toNat < 128) :
    SqlValue.ofString s = .text (s.toList.map Char.toUInt8) := by
  rw [ofString_eq, flatMap_utf8EncodeChar_of_ascii s.toList h]

end PackageRegistry.Sql
