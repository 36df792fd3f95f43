import Browserd.Lib.Lines
import Mathlib.Algebra.Group.Nat.Defs
import Mathlib.Data.List.DropRight

/-!
# Strings

The functions of `base` on strings that browserd calls, on the characters of the string.
-/

namespace Browserd

/-- `base::kWhitespaceASCII`. -/
def isWhitespaceASCII (c : Char) : Bool :=
  c ∈ [' ', '\t', '\n', '\x0b', '\x0c', '\r']

def isStringASCII (s : String) : Bool := s.toList.all fun c => c.toNat < 0x80

/-- `base::TrimString` at both ends, of the characters in `trimmed`. -/
def trimString (trimmed : Char → Bool) (s : String) : String :=
  String.ofList ((s.toList.dropWhile trimmed).rdropWhile trimmed)

/-- `base::SplitString` with `TRIM_WHITESPACE` and `SPLIT_WANT_NONEMPTY`. -/
def splitString (s : String) (separator : Char) : List String :=
  ((s.toList.splitOn separator).map fun piece =>
    trimString isWhitespaceASCII (String.ofList piece)).filter fun piece => !piece.isEmpty

section SplitString

variable {s piece : String} {separator : Char}

theorem trimString_trimString (trimmed : Char → Bool) (s : String) :
    trimString trimmed (trimString trimmed s) = trimString trimmed s := by
  let left := s.toList.dropWhile trimmed
  have hleft : left.dropWhile trimmed = left := List.dropWhile_idempotent _ _
  have hinner : (left.rdropWhile trimmed).dropWhile trimmed = left.rdropWhile trimmed := by
    rw [List.dropWhile_eq_self_iff] at hleft ⊢
    intro hlength
    have hprefix := List.rdropWhile_prefix trimmed left
    have hlt := lt_of_lt_of_le hlength hprefix.length_le
    have hhead : (left.rdropWhile trimmed)[0] = left[0] := hprefix.getElem hlength
    rw [hhead]
    exact hleft hlt
  simp only [trimString, String.toList_ofList]
  rw [hinner, List.rdropWhile_idempotent]

theorem mem_of_mem_trimString {trimmed : Char → Bool} {c : Char}
    (h : c ∈ (trimString trimmed s).toList) : c ∈ s.toList := by
  simp only [trimString, String.toList_ofList] at h
  exact (List.dropWhile_suffix _).subset ((List.rdropWhile_prefix _ _).subset h)

theorem mem_trimString {trimmed : Char → Bool} {c : Char} (h : c ∈ s.toList)
    (hc : trimmed c = false) : c ∈ (trimString trimmed s).toList := by
  have hdrop : ∀ l : List Char, c ∈ l → c ∈ l.dropWhile trimmed := by
    intro l hl
    rw [← List.takeWhile_append_dropWhile (p := trimmed) (l := l), List.mem_append] at hl
    rcases hl with hl | hl
    · simp [List.mem_takeWhile_imp hl] at hc
    · exact hl
  rw [trimString, String.toList_ofList, List.rdropWhile, List.mem_reverse]
  apply hdrop
  rw [List.mem_reverse]
  exact hdrop _ h

/-- A string that stays as it is when a list of such strings is split. -/
structure IsItem (separator : Char) (s : String) : Prop where
  nonempty : s ≠ ""
  trimmed : trimString isWhitespaceASCII s = s
  separator : separator ∉ s.toList

theorem isItem_of_mem_splitString (h : piece ∈ splitString s separator) :
    IsItem separator piece := by
  simp only [splitString, List.mem_filter, List.mem_map] at h
  obtain ⟨⟨chars, hchars, rfl⟩, hnonempty⟩ := h
  constructor
  · simpa [String.isEmpty_iff] using hnonempty
  · exact trimString_trimString _ _
  · intro hmem
    have hmem := mem_of_mem_trimString hmem
    rw [String.toList_ofList] at hmem
    exact (Lines.mem_splitOn hchars).1 hmem

theorem isStringASCII_of_mem_splitString (h : piece ∈ splitString s separator)
    (hs : isStringASCII s = true) : isStringASCII piece = true := by
  simp only [splitString, List.mem_filter, List.mem_map] at h
  obtain ⟨⟨chars, hchars, rfl⟩, -⟩ := h
  rw [isStringASCII, List.all_eq_true] at hs ⊢
  intro c hc
  have hmem := mem_of_mem_trimString hc
  rw [String.toList_ofList] at hmem
  exact hs c ((Lines.mem_splitOn hchars).2 hmem)

theorem splitString_item (h : IsItem separator piece) : splitString piece separator = [piece] := by
  rw [splitString, List.splitOn_eq_singleton h.separator]
  simp [h.trimmed, h.nonempty]

/-- An item behind a separator is split off as the last piece. -/
theorem splitString_append_item {text : String} (s : String) (htext : text.toList = [separator])
    (h : IsItem separator piece) :
    splitString (s ++ text ++ piece) separator = splitString s separator ++ [piece] := by
  have hchars : (s ++ text ++ piece).toList = s.toList ++ separator :: piece.toList := by
    simp [htext]
  rw [splitString, hchars, List.splitOn_append_cons_self, List.map_append, List.filter_append]
  congr 1
  exact splitString_item h

/-- A character that is neither trimmed nor a separator is in one of the pieces. -/
theorem exists_mem_splitString {c : Char} (hc : c ∈ s.toList) (hsep : c ≠ separator)
    (htrim : isWhitespaceASCII c = false) :
    ∃ piece ∈ splitString s separator, c ∈ piece.toList := by
  obtain ⟨chars, hchars, hmem⟩ := Lines.exists_mem_splitOn hc hsep
  have htrimmed : c ∈ (trimString isWhitespaceASCII (String.ofList chars)).toList :=
    mem_trimString (by simpa using hmem) htrim
  refine ⟨_, ?_, htrimmed⟩
  simp only [splitString, List.mem_filter, List.mem_map]
  refine ⟨⟨chars, hchars, rfl⟩, ?_⟩
  rw [Bool.not_eq_true', String.isEmpty_eq_false_iff]
  intro hempty
  simp [hempty] at htrimmed

@[simp] theorem splitString_empty (separator : Char) : splitString "" separator = [] := by
  simp [splitString, trimString]

end SplitString

def equalsCaseInsensitiveASCII (a b : String) : Bool :=
  a.toList.map Char.toLower == b.toList.map Char.toLower

/-- `base::StartsWith` with `CompareCase::INSENSITIVE_ASCII`. -/
def startsWithInsensitive (s start : String) : Bool :=
  (s.toList.map Char.toLower).take start.length == start.toList.map Char.toLower

/-- `base::StringToInt`: an optional sign, then decimal digits, within the range of `int`. -/
def stringToInt (s : String) : Option Int :=
  let digits (ds : List Char) : Option Nat :=
    if ds.isEmpty || !ds.all Char.isDigit then none else some (Nat.ofDigitChars 10 ds 0)
  match s.toList with
  | '-' :: ds => (digits ds).bind fun n => if n ≤ 2 ^ 31 then some (-n) else none
  | '+' :: ds => (digits ds).bind fun n => if n < 2 ^ 31 then some n else none
  | ds => (digits ds).bind fun n => if n < 2 ^ 31 then some n else none

/-- A numeral has no sign. -/
theorem stringToInt_toDigits (n : Nat) :
    stringToInt (String.ofList (Nat.toDigits 10 n)) =
      if n < 2 ^ 31 then some (n : Int) else none := by
  have hne : Nat.toDigits 10 n ≠ [] := List.ne_nil_of_length_pos Nat.length_toDigits_pos
  have hdigit (c : Char) (hc : c ∈ Nat.toDigits 10 n) : c.isDigit :=
    Nat.isDigit_of_mem_toDigits (by decide) (by decide) hc
  have hall : (Nat.toDigits 10 n).all Char.isDigit = true := List.all_eq_true.mpr hdigit
  unfold stringToInt
  rw [String.toList_ofList]
  split
  · rename_i digits heq
    exact absurd (hdigit '-' (by simp [heq])) (by decide)
  · rename_i digits heq
    exact absurd (hdigit '+' (by simp [heq])) (by decide)
  · simp [hne, hall, Nat.ofDigitChars_ten_toDigits]

end Browserd
