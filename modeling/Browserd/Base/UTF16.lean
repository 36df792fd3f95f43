import Mathlib.Data.List.Basic
import Mathlib.Tactic.SplitIfs

/-!
# Encodings of a text

A `std::string` holds the UTF-8 bytes of a text; the strings of Blink and of JavaScript hold its
UTF-16 units.
-/

namespace Browserd

def utf16Char (c : Char) : List UInt16 :=
  let n := c.toNat
  if n < 0x10000 then [UInt16.ofNat n]
  else [UInt16.ofNat (0xD800 + (n - 0x10000) / 0x400), UInt16.ofNat (0xDC00 + n % 0x400)]

def utf16 (s : String) : List UInt16 := s.toList.flatMap utf16Char

private theorem toList_loop (bytes : ByteArray) (i : Nat) (acc : List UInt8) :
    ByteArray.toList.loop bytes i acc = acc.reverse ++ bytes.data.toList.drop i := by
  fun_induction ByteArray.toList.loop bytes i acc with
  | case1 i acc h ih =>
      have hi : i < bytes.data.toList.length := by simpa using h
      have hget : bytes.get! i = bytes.data.toList[i] := by
        rw [Array.getElem_toList]
        exact getElem!_pos bytes.data i (by simpa using h)
      rw [ih, List.drop_eq_getElem_cons hi, hget, List.reverse_cons, List.append_assoc]
      rfl
  | case2 i acc h =>
      have hi : bytes.data.toList.length ≤ i := by simpa using h
      rw [List.drop_eq_nil_of_le hi, List.append_nil]

theorem toUTF8_toList (s : String) :
    s.toUTF8.toList = s.toList.flatMap String.utf8EncodeChar := by
  rw [ByteArray.toList, toList_loop]
  conv_lhs => rw [String.toUTF8_eq_toByteArray, ← String.ofList_toList (s := s)]
  rw [String.toByteArray_ofList, List.utf8Encode, List.toList_data_toByteArray]
  rfl

theorem toUTF8_toList_length (s : String) : s.toUTF8.toList.length = s.utf8ByteSize := by
  rw [ByteArray.toList, toList_loop]
  rfl

/-- The characters that both encodings write as one and the same unit, apart from NUL. -/
def isPlainASCII (c : Char) : Bool := 0 < c.toNat && c.toNat < 0x80

theorem utf8EncodeChar_of_lt {c : Char} (h : c.toNat < 0x80) :
    String.utf8EncodeChar c = [UInt8.ofNat c.toNat] := by
  have hle : c.val.toNat ≤ 0x7f := by
    have : c.toNat = c.val.toNat := rfl
    omega
  simp only [String.utf8EncodeChar, if_pos hle]
  rfl

theorem utf16Char_of_lt {c : Char} (h : c.toNat < 0x80) :
    utf16Char c = [UInt16.ofNat c.toNat] := by
  simp only [utf16Char, if_pos (show c.toNat < 0x10000 by omega)]

private theorem ofNat_ne_zero {n : Nat} (hpos : 0 < n) (h : n < 256) : UInt8.ofNat n ≠ 0 := by
  intro heq
  have hnat := congrArg UInt8.toNat heq
  rw [UInt8.toNat_ofNat_of_lt' h] at hnat
  exact absurd hnat (by simpa using Nat.ne_of_gt hpos)

/-- Only NUL is encoded with a zero byte. -/
theorem utf8EncodeChar_ne_zero {c : Char} (h : 0 < c.toNat) {b : UInt8}
    (hb : b ∈ String.utf8EncodeChar c) : b ≠ 0 := by
  have hc : c.toNat = c.val.toNat := rfl
  simp only [String.utf8EncodeChar] at hb
  split at hb
  · simp only [List.mem_singleton] at hb
    exact hb ▸ ofNat_ne_zero (by omega) (by omega)
  split at hb
  · simp only [List.mem_cons, List.not_mem_nil, or_false] at hb
    rcases hb with rfl | rfl <;> exact ofNat_ne_zero (by omega) (by omega)
  split at hb
  · simp only [List.mem_cons, List.not_mem_nil, or_false] at hb
    rcases hb with rfl | rfl | rfl <;> exact ofNat_ne_zero (by omega) (by omega)
  · simp only [List.mem_cons, List.not_mem_nil, or_false] at hb
    rcases hb with rfl | rfl | rfl | rfl <;> exact ofNat_ne_zero (by omega) (by omega)

theorem utf16Char_length (c : Char) :
    (utf16Char c).length = if c.toNat < 0x10000 then 1 else 2 := by
  simp only [utf16Char]
  split <;> rfl

private theorem utf8EncodeChar_length (c : Char) :
    (String.utf8EncodeChar c).length =
      if c.toNat ≤ 0x7f then 1 else if c.toNat ≤ 0x7ff then 2
        else if c.toNat ≤ 0xffff then 3 else 4 := by
  change (String.utf8EncodeChar c).length =
    if c.val.toNat ≤ 0x7f then 1 else if c.val.toNat ≤ 0x7ff then 2
      else if c.val.toNat ≤ 0xffff then 3 else 4
  simp only [String.utf8EncodeChar]
  split
  · rfl
  split
  · rfl
  split <;> rfl

/-- No character has fewer bytes than units, and only ASCII characters have as many. -/
theorem utf16Char_length_le (c : Char) :
    (utf16Char c).length ≤ (String.utf8EncodeChar c).length ∧
      ((utf16Char c).length = (String.utf8EncodeChar c).length → c.toNat < 0x80) := by
  rw [utf16Char_length, utf8EncodeChar_length]
  split_ifs <;> omega

theorem utf16_length_le (cs : List Char) :
    (cs.flatMap utf16Char).length ≤ (cs.flatMap String.utf8EncodeChar).length ∧
      ((cs.flatMap utf16Char).length = (cs.flatMap String.utf8EncodeChar).length →
        ∀ c ∈ cs, c.toNat < 0x80) := by
  induction cs with
  | nil => simp
  | cons c cs ih =>
      have hc := utf16Char_length_le c
      simp only [List.flatMap_cons, List.length_append]
      constructor
      · exact Nat.add_le_add hc.1 ih.1
      · intro heq
        rw [List.forall_mem_cons]
        constructor
        · apply hc.2
          omega
        · apply ih.2
          omega

end Browserd
