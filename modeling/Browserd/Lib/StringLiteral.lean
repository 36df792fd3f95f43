import Mathlib.Data.List.Basic

/-!
# String literals in a script

A scanner that takes the string literals out of the text of a script, character by character. A
text that opens a comment, a regular expression or a template is refused, and so are the escapes
with decimal digits or braces. What a closed text is scanned to does not depend on what is around
it.
-/

namespace StringLiteral

variable {α : Type*}

/-- A character of the code, or a literal with its value. -/
inductive Piece (α : Type*) where
  | code (c : Char)
  | literal (value : List α)
  deriving DecidableEq

/-- Where the scanner is; a literal has its delimiter and the value so far, and a numeric escape
the number of digits to come and the number so far. -/
inductive Mode (α : Type*) where
  | code
  | literal (delimiter : Char) (value : List α)
  | escape (delimiter : Char) (value : List α)
  | hex (delimiter : Char) (value : List α) (digits : Nat) (number : Nat)

def hexValue (c : Char) : Option Nat :=
  if '0' ≤ c ∧ c ≤ '9' then some (c.toNat - '0'.toNat)
  else if 'A' ≤ c ∧ c ≤ 'F' then some (c.toNat - 'A'.toNat + 10)
  else if 'a' ≤ c ∧ c ≤ 'f' then some (c.toNat - 'a'.toNat + 10)
  else none

/-- The character that an escape of one character stands for. -/
def escaped (c : Char) : Char :=
  match c with
  | 'b' => Char.ofNat 8
  | 't' => '\t'
  | 'n' => '\n'
  | 'v' => Char.ofNat 11
  | 'f' => Char.ofNat 12
  | 'r' => '\r'
  | c => c

/-- A line break, also one that is only a separator. -/
def isLineBreak (c : Char) : Bool :=
  c == '\n' || c == '\r' || c == Char.ofNat 0x2028 || c == Char.ofNat 0x2029

/-- `encode` gives the units of a character and `unit` that of a numeric escape. -/
def step (encode : Char → List α) (unit : Nat → α) :
    Mode α → Char → Option (Mode α × List (Piece α))
  | .code, c =>
      if c = '"' ∨ c = '\'' then some (.literal c [], [])
      else if c = '/' ∨ c = Char.ofNat 96 ∨ c = '\\' then none
      else some (.code, [.code c])
  | .literal delimiter value, c =>
      if c = delimiter then some (.code, [.literal value])
      else if c = '\\' then some (.escape delimiter value, [])
      else if c = '\n' ∨ c = '\r' then none
      else some (.literal delimiter (value ++ encode c), [])
  | .escape delimiter value, c =>
      if c = 'u' then some (.hex delimiter value 4 0, [])
      else if c = 'x' then some (.hex delimiter value 2 0, [])
      else if c.isDigit then none
      else if isLineBreak c then some (.literal delimiter value, [])
      else some (.literal delimiter (value ++ encode (escaped c)), [])
  | .hex delimiter value digits number, c =>
      match hexValue c with
      | none => none
      | some digit =>
          if digits ≤ 1 then some (.literal delimiter (value ++ [unit (number * 16 + digit)]), [])
          else some (.hex delimiter value (digits - 1) (number * 16 + digit), [])

def run (encode : Char → List α) (unit : Nat → α) :
    Mode α → List Char → Option (Mode α × List (Piece α))
  | mode, [] => some (mode, [])
  | mode, c :: rest =>
      match step encode unit mode c with
      | none => none
      | some (next, pieces) =>
          (run encode unit next rest).map fun result => (result.1, pieces ++ result.2)

/-- The text is code, whole literals included, and `pieces` is what it says. -/
def Scans (encode : Char → List α) (unit : Nat → α) (text : List Char)
    (pieces : List (Piece α)) : Prop :=
  run encode unit .code text = some (.code, pieces)

/-- The pieces of a closed text. -/
def scan (encode : Char → List α) (unit : Nat → α) (text : List Char) : Option (List (Piece α)) :=
  match run encode unit .code text with
  | some (.code, pieces) => some pieces
  | _ => none

section Scanner

variable {encode : Char → List α} {unit : Nat → α} {mode next : Mode α} {text later : List Char}
  {pieces rest : List (Piece α)}

/-- A step without a piece. -/
theorem run_cons {c : Char} (h : step encode unit mode c = some (next, [])) :
    run encode unit mode (c :: text) = run encode unit next text := by
  rw [run, h]
  simp

theorem run_append (h : run encode unit mode text = some (next, pieces)) :
    run encode unit mode (text ++ later) =
      (run encode unit next later).map fun result => (result.1, pieces ++ result.2) := by
  induction text generalizing mode pieces with
  | nil =>
      obtain ⟨rfl, rfl⟩ := Prod.mk.inj (Option.some.inj h)
      simp
  | cons c text ih =>
      rw [List.cons_append, run]
      rw [run] at h
      cases hstep : step encode unit mode c with
      | none => simp [hstep] at h
      | some result =>
          rw [hstep] at h
          obtain ⟨⟨stop, tail⟩, hrun, heq⟩ := Option.map_eq_some_iff.mp h
          obtain ⟨rfl, rfl⟩ := Prod.mk.inj heq
          simp only [ih hrun, Option.map_map]
          congr 1
          funext last
          simp

theorem scan_eq_some : scan encode unit text = some pieces ↔ Scans encode unit text pieces := by
  rw [scan, Scans]
  split
  · rename_i heq
    simp [heq]
  · rename_i hnot
    constructor
    · intro h
      cases h
    · intro h
      exact absurd h (hnot pieces)

theorem Scans.nil : Scans encode unit [] ([] : List (Piece α)) := rfl

/-- Closed texts are scanned one after the other. -/
theorem Scans.append (h : Scans encode unit text pieces) (hlater : Scans encode unit later rest) :
    Scans encode unit (text ++ later) (pieces ++ rest) := by
  rw [Scans] at h hlater ⊢
  rw [run_append h, hlater]
  rfl

/-- A character that means nothing to the scanner outside of literals. -/
def isCode (c : Char) : Bool :=
  c != '"' && c != '\'' && c != '/' && c != Char.ofNat 96 && c != '\\'

theorem Scans.code (h : ∀ c ∈ text, isCode c = true) :
    Scans encode unit text (text.map .code) := by
  induction text with
  | nil => exact .nil
  | cons c text ih =>
      have hc := h c List.mem_cons_self
      simp only [isCode, Bool.and_eq_true, bne_iff_ne] at hc
      have htail := ih fun c hmem => h c (List.mem_cons_of_mem _ hmem)
      rw [Scans] at htail
      simp [Scans, run, step, hc, htail]

/-- The digits of a numeric escape, the last of which ends it. -/
theorem run_hex {delimiter c : Char} {value : List α} {digits number digit : Nat}
    (h : hexValue c = some digit) :
    run encode unit (.hex delimiter value digits number) (c :: text) =
      if digits ≤ 1 then
        run encode unit (.literal delimiter (value ++ [unit (number * 16 + digit)])) text
      else run encode unit (.hex delimiter value (digits - 1) (number * 16 + digit)) text := by
  split
  · rename_i hlast
    apply run_cons
    simp [step, h, hlast]
  · rename_i hmore
    apply run_cons
    simp [step, h, hmore]

/-- A text without line breaks in which the characters are written one by one, each in a way that
leads back to the literal. -/
theorem Scans.literal {delimiter : Char} (hdelimiter : delimiter = '"' ∨ delimiter = '\'')
    (write : Char → List Char)
    (hwrite : ∀ c value, run encode unit (.literal delimiter value) (write c) =
      some (.literal delimiter (value ++ encode c), [])) (text : List Char) :
    Scans encode unit (delimiter :: text.flatMap write ++ [delimiter])
      [.literal (text.flatMap encode)] := by
  have hbody : ∀ (text : List Char) (value : List α),
      run encode unit (.literal delimiter value) (text.flatMap write ++ [delimiter]) =
        some (.code, [.literal (value ++ text.flatMap encode)]) := by
    intro text
    induction text with
    | nil =>
        intro value
        simp [run, step]
    | cons c text ih =>
        intro value
        rw [List.flatMap_cons, List.append_assoc, run_append (hwrite c value), ih]
        simp
  rw [Scans, List.cons_append, run]
  simp only [step, if_pos hdelimiter]
  rw [hbody text []]
  rfl

end Scanner

end StringLiteral
