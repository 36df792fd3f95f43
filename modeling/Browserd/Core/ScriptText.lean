import Browserd.Base.UTF16
import Browserd.Lib.StringLiteral

/-!
# The scripts that carry texts into a page

The scripts that type, select and wait are put together from fixed code and the texts of a request.
A text comes in as a string literal. Whatever it is, the page reads back the text itself, and the
code around it is the one that the source has.
-/

namespace Browserd

open StringLiteral

/-- A digit as `%X` writes it. -/
def upperHexDigit (n : Nat) : Char := if n < 10 then Char.ofNat (48 + n) else Char.ofNat (55 + n)

/-- The code points of `EscapeSpecialCodePoint`, with what it writes. -/
def specialCodePoints : List (Nat × List Char) :=
  [(8, ['\\', 'b']), (12, ['\\', 'f']), (10, ['\\', 'n']), (13, ['\\', 'r']),
    (9, ['\\', 't']), (92, ['\\', '\\']), (34, ['\\', '"']),
    (60, ['\\', 'u', '0', '0', '3', 'C']), (0x2028, ['\\', 'u', '2', '0', '2', '8']),
    (0x2029, ['\\', 'u', '2', '0', '2', '9'])]

/-- The character as `base::EscapeJSONString` writes it. -/
def escapeJSONChar (c : Char) : List Char :=
  match specialCodePoints.lookup c.toNat with
  | some escape => escape
  | none =>
      if c.toNat < 32 then
        ['\\', 'u', '0', '0', upperHexDigit (c.toNat / 16), upperHexDigit (c.toNat % 16)]
      else [c]

/-- `base::GetQuotedJSONString` of a valid text. -/
def getQuotedJSONString (s : String) : String :=
  String.ofList ('"' :: s.toList.flatMap escapeJSONChar ++ ['"'])

/-- The `js_values` of `DomSelectExpression` and `SelectOption`. -/
def jsValues (values : List String) : String :=
  values.foldl (fun js value => (if js.isEmpty then js else js ++ ",") ++ getQuotedJSONString value)
    ""

/-- What a script is put together from. -/
inductive ScriptPart where
  | code (text : String)
  | number (n : Nat)
  | text (value : String)
  | texts (values : List String)

def ScriptPart.render : ScriptPart → String
  | code js => js
  | number n => String.ofList (Nat.toDigits 10 n)
  | text value => getQuotedJSONString value
  | texts values => jsValues values

def render (parts : List ScriptPart) : String :=
  parts.foldl (fun script part => script ++ part.render) ""

def domRefPrelude (index : Nat) : List ScriptPart :=
  [.code "const el = window.__browserdDomRefs && window.__browserdDomRefs[", .number index,
    .code "];if (!el || !el.isConnected)",
    .code "   return 'Error: element ref not found; call browser_snapshot again';"]

/-- A constant of the language. -/
def scriptBool (b : Bool) : ScriptPart := .code (if b then "true" else "false")

def domTypeScript (index : Nat) (text : String) (clear : Bool) : List ScriptPart :=
  [.code "(() => \x7b  "] ++ domRefPrelude index ++
  [.code "  const text = ", .text text,
    .code ";  el.scrollIntoView(\x7bblock:'center', inline:'center'\x7d);",
    .code "  if (el.focus) el.focus(\x7bpreventScroll:true\x7d);",
    .code "  const tag = el.tagName ? el.tagName.toLowerCase() : '';",
    .code "  if (tag === 'input' || tag === 'textarea') \x7b    if (", scriptBool clear,
    .code ") el.value = '';",
    .code "    if (typeof el.setRangeText === 'function') \x7b",
    .code "      const start = el.selectionStart ?? el.value.length;",
    .code "      const end = el.selectionEnd ?? el.value.length;",
    .code "      el.setRangeText(text, start, end, 'end');    \x7d else \x7b",
    .code "      el.value += text;    \x7d",
    .code "    el.dispatchEvent(new InputEvent('input', ",
    .code "\x7bbubbles:true, inputType:'insertText', data:text\x7d));",
    .code "    el.dispatchEvent(new Event('change', \x7bbubbles:true\x7d));",
    .code "    return 'Typed text';  \x7d",
    .code "  if (el.isContentEditable) \x7b    if (", scriptBool clear,
    .code ") el.textContent = '';",
    .code "    document.execCommand('insertText', false, text);",
    .code "    el.dispatchEvent(new InputEvent('input', ",
    .code "\x7bbubbles:true, inputType:'insertText', data:text\x7d));",
    .code "    return 'Typed text';  \x7d",
    .code "  return 'Error: element does not accept text';\x7d)()"]

/-- The loop over the options, between what comes before it and the events after it. -/
def selectLoop (values : List String) : List ScriptPart :=
  [.code "  const vals = [", .texts values,
    .code "];  Array.from(el.options).forEach(o => \x7b",
    .code "    o.selected = vals.includes(o.value);  \x7d);"]

def domSelectScript (index : Nat) (values : List String) : List ScriptPart :=
  [.code "(() => \x7b  "] ++ domRefPrelude index ++
  [.code "  if (!el || el.tagName !== 'SELECT')    return 'Error: element is not a select';"] ++
  selectLoop values ++
  [.code "  el.dispatchEvent(new Event('input', \x7bbubbles: true\x7d));",
    .code "  el.dispatchEvent(new Event('change', \x7bbubbles: true\x7d));",
    .code "  return 'Selected ' + vals.length + ' option(s)';\x7d)()"]

/-- The script of `SelectOption` for a node that has been focused. -/
def selectFocusedScript (values : List String) : List ScriptPart :=
  [.code "(() => \x7b  const el = document.activeElement;",
    .code "  if (!el || el.tagName !== 'SELECT')",
    .code "    return 'Error: focused element is not a select';"] ++
  selectLoop values ++
  [.code "  el.dispatchEvent(new Event('change', \x7bbubbles: true\x7d));",
    .code "  return 'Selected ' + vals.length + ' option(s)';\x7d)()"]

/-- What both scripts of `WaitFor` do when the check has failed. -/
def waitAgain : List ScriptPart :=
  [.code "    if (Date.now() - start > timeout) \x7b reject(new Error('timeout')); return; \x7d",
    .code "    setTimeout(check, 100);  \x7d;  check();\x7d)"]

def waitSelectorScript (timeout : Nat) (selector : String) : List ScriptPart :=
  [.code "new Promise((resolve, reject) => \x7b  const timeout = ", .number timeout,
    .code ";  const selector = ", .text selector,
    .code ";  const start = Date.now();  const check = () => \x7b",
    .code "    const el = document.querySelector(selector);",
    .code "    if (el) \x7b resolve('found'); return; \x7d"] ++ waitAgain

def waitTextScript (timeout : Nat) (text : String) : List ScriptPart :=
  [.code "new Promise((resolve, reject) => \x7b  const timeout = ", .number timeout,
    .code ";  const text = ", .text text,
    .code ";  const start = Date.now();  const check = () => \x7b",
    .code "    if (document.body && document.body.innerText.includes(text)) ",
    .code "\x7b resolve('found'); return; \x7d"] ++ waitAgain

/-- The requests that come with a text. -/
inductive TextScript where
  | domType (index : Nat) (text : String) (clear : Bool)
  | domSelect (index : Nat) (values : List String)
  | selectFocused (values : List String)
  | waitSelector (timeout : Nat) (selector : String)
  | waitText (timeout : Nat) (text : String)

namespace TextScript

def parts : TextScript → List ScriptPart
  | domType index text clear => domTypeScript index text clear
  | domSelect index values => domSelectScript index values
  | selectFocused values => selectFocusedScript values
  | waitSelector timeout selector => waitSelectorScript timeout selector
  | waitText timeout text => waitTextScript timeout text

/-- The text that is evaluated. -/
def expression (script : TextScript) : String := render script.parts

end TextScript

/-- What a page reads in the text of a script. -/
def readScript (text : String) : Option (List (Piece UInt16)) :=
  scan utf16Char UInt16.ofNat text.toList

/-- What a page reads for a part. -/
def ScriptPart.pieces : ScriptPart → List (Piece UInt16)
  | code js => (readScript js).getD []
  | number n => (Nat.toDigits 10 n).map .code
  | text value => [.literal (utf16 value)]
  | texts values => (values.map fun value => .literal (utf16 value)).intersperse (.code ',')

/-- Code without a literal that is not closed. -/
def ScriptPart.isClosed : ScriptPart → Bool
  | code js => (readScript js).isSome
  | _ => true

section Reading

variable {c : Char} {value : List UInt16}

theorem hexValue_upperHexDigit : ∀ n < 16, hexValue (upperHexDigit n) = some n := by decide

/-- A numeric escape of four digits. -/
theorem run_numeric {a b d e : Nat} (ha : a < 16) (hb : b < 16) (hd : d < 16) (he : e < 16) :
    run utf16Char UInt16.ofNat (.literal '"' value)
        ['\\', 'u', upperHexDigit a, upperHexDigit b, upperHexDigit d, upperHexDigit e] =
      some (.literal '"' (value ++ [UInt16.ofNat (((a * 16 + b) * 16 + d) * 16 + e)]), []) := by
  have hescape : step utf16Char UInt16.ofNat (.literal '"' value) '\\' =
      some (.escape '"' value, []) := rfl
  have hnumeric : step utf16Char UInt16.ofNat (.escape '"' value) 'u' =
      some (.hex '"' value 4 0, []) := rfl
  rw [run_cons hescape, run_cons hnumeric, run_hex (hexValue_upperHexDigit a ha),
    run_hex (hexValue_upperHexDigit b hb), run_hex (hexValue_upperHexDigit d hd),
    run_hex (hexValue_upperHexDigit e he), Nat.zero_mul, Nat.zero_add]
  rfl

/-- A character written as an escape of one character. -/
theorem run_escaped {d : Char} (hu : d ≠ 'u') (hx : d ≠ 'x') (hdigit : d.isDigit = false)
    (hline : isLineBreak d = false) :
    run utf16Char UInt16.ofNat (.literal '"' value) ['\\', d] =
      some (.literal '"' (value ++ utf16Char (escaped d)), []) := by
  have hescape : step utf16Char UInt16.ofNat (.literal '"' value) '\\' =
      some (.escape '"' value, []) := rfl
  have hescaped : step utf16Char UInt16.ofNat (.escape '"' value) d =
      some (.literal '"' (value ++ utf16Char (escaped d)), []) := by
    simp [step, hu, hx, hdigit, hline]
  rw [run_cons hescape, run_cons hescaped]
  rfl

theorem run_specialCodePoints {n : Nat} {escape : List Char}
    (h : (n, escape) ∈ specialCodePoints) :
    run utf16Char UInt16.ofNat (.literal '"' value) escape =
      some (.literal '"' (value ++ utf16Char (Char.ofNat n)), []) := by
  simp only [specialCodePoints, List.mem_cons, List.not_mem_nil, or_false, Prod.mk.injEq] at h
  rcases h with ⟨rfl, rfl⟩ | ⟨rfl, rfl⟩ | ⟨rfl, rfl⟩ | ⟨rfl, rfl⟩ | ⟨rfl, rfl⟩ | ⟨rfl, rfl⟩ |
    ⟨rfl, rfl⟩ | ⟨rfl, rfl⟩ | ⟨rfl, rfl⟩ | ⟨rfl, rfl⟩
  case inr.inr.inr.inr.inr.inr.inr.inl =>
    exact run_numeric (a := 0) (b := 0) (d := 3) (e := 12) (by decide) (by decide) (by decide)
      (by decide)
  case inr.inr.inr.inr.inr.inr.inr.inr.inl =>
    exact run_numeric (a := 2) (b := 0) (d := 2) (e := 8) (by decide) (by decide) (by decide)
      (by decide)
  case inr.inr.inr.inr.inr.inr.inr.inr.inr =>
    exact run_numeric (a := 2) (b := 0) (d := 2) (e := 9) (by decide) (by decide) (by decide)
      (by decide)
  all_goals exact run_escaped (by decide) (by decide) rfl rfl

/-- What is written for a character is read back as its units. -/
theorem run_escapeJSONChar (c : Char) (value : List UInt16) :
    run utf16Char UInt16.ofNat (.literal '"' value) (escapeJSONChar c) =
      some (.literal '"' (value ++ utf16Char c), []) := by
  rw [escapeJSONChar]
  cases hspecial : specialCodePoints.lookup c.toNat with
  | some escape =>
      have hmem : (c.toNat, escape) ∈ specialCodePoints := by
        obtain ⟨front, back, heq, -⟩ := List.lookup_eq_some_iff.mp hspecial
        rw [heq]
        exact List.mem_append_right _ List.mem_cons_self
      have hread := @run_specialCodePoints value _ _ hmem
      rwa [Char.ofNat_toNat] at hread
  | none =>
      by_cases hcontrol : c.toNat < 32
      · have hnumber : ((0 * 16 + 0) * 16 + c.toNat / 16) * 16 + c.toNat % 16 = c.toNat := by
          omega
        have hread := @run_numeric value 0 0 (c.toNat / 16) (c.toNat % 16) (by decide) (by decide)
          (by omega) (by omega)
        rw [hnumber] at hread
        simp only [hcontrol, if_true]
        rw [utf16Char_of_lt (by omega)]
        exact hread
      · have hplain {d : Char} {escape : List Char} (h : (d.toNat, escape) ∈ specialCodePoints) :
            c ≠ d := by
          have hnone := List.lookup_eq_none_iff.mp hspecial _ h
          intro heq
          simp [heq] at hnone
        have hescape : c ≠ '\\' := @hplain _ ['\\', '\\'] (by decide)
        have hquote : c ≠ '"' := @hplain _ ['\\', '"'] (by decide)
        have hnewline : c ≠ '\n' := @hplain _ ['\\', 'n'] (by decide)
        have hreturn : c ≠ '\r' := @hplain _ ['\\', 'r'] (by decide)
        simp [hcontrol, run, step, hescape, hquote, hnewline, hreturn]

theorem getQuotedJSONString_scans (s : String) :
    Scans utf16Char UInt16.ofNat (getQuotedJSONString s).toList [.literal (utf16 s)] := by
  rw [getQuotedJSONString, String.toList_ofList]
  exact Scans.literal (.inl rfl) escapeJSONChar run_escapeJSONChar s.toList

theorem jsValues_foldl (values : List String) {js : String} (hjs : js ≠ "")
    {pieces : List (Piece UInt16)} (h : Scans utf16Char UInt16.ofNat js.toList pieces) :
    Scans utf16Char UInt16.ofNat
      (values.foldl
        (fun js value => (if js.isEmpty then js else js ++ ",") ++ getQuotedJSONString value)
        js).toList
      (pieces ++ values.flatMap fun value => [.code ',', .literal (utf16 value)]) := by
  induction values generalizing js pieces with
  | nil => simpa using h
  | cons value values ih =>
      have hmore : (if js.isEmpty then js else js ++ ",") = js ++ "," := by
        rw [if_neg (by simpa using hjs)]
      have hcomma : Scans utf16Char UInt16.ofNat [','] [.code ','] := rfl
      rw [List.foldl_cons, hmore, List.flatMap_cons, ← List.append_assoc]
      apply ih
      · simp [getQuotedJSONString]
      · rw [String.toList_append, String.toList_append]
        have hboth := (h.append hcomma).append (getQuotedJSONString_scans value)
        rw [List.append_assoc pieces] at hboth
        exact hboth

theorem intersperse_eq {α : Type*} (sep a : α) (rest : List α) :
    (a :: rest).intersperse sep = a :: rest.flatMap fun b => [sep, b] := by
  induction rest generalizing a with
  | nil => rfl
  | cons b rest ih => rw [List.intersperse_cons_cons, ih, List.flatMap_cons]; rfl

theorem map_intersperse {α β : Type*} (f : α → β) (sep : α) (l : List α) :
    (l.intersperse sep).map f = (l.map f).intersperse (f sep) := by
  cases l with
  | nil => rfl
  | cons a rest =>
      rw [intersperse_eq, List.map_cons, List.map_cons, intersperse_eq, List.map_flatMap,
        List.flatMap_map]
      rfl

theorem jsValues_scans (values : List String) :
    Scans utf16Char UInt16.ofNat (jsValues values).toList (ScriptPart.texts values).pieces := by
  cases values with
  | nil => exact .nil
  | cons value values =>
      rw [ScriptPart.pieces, List.map_cons, intersperse_eq, List.flatMap_map]
      have hfirst : getQuotedJSONString value ≠ "" := by simp [getQuotedJSONString]
      have hscans := jsValues_foldl values hfirst (getQuotedJSONString_scans value)
      simpa [jsValues] using hscans

theorem isCode_of_isDigit {c : Char} (h : c.isDigit = true) : isCode c = true := by
  have hbounds : 48 ≤ c.toNat ∧ c.toNat ≤ 57 := by
    simpa [Char.isDigit, UInt32.le_iff_toNat_le] using h
  have hne : ∀ d : Char, d.toNat < 48 ∨ 57 < d.toNat → c ≠ d := by
    intro d hd heq
    rw [heq] at hbounds
    omega
  simp [isCode, hne '"' (by decide), hne '\'' (by decide), hne '/' (by decide),
    hne (Char.ofNat 96) (by decide), hne '\\' (by decide)]

theorem ScriptPart.scans {part : ScriptPart} (h : part.isClosed = true) :
    Scans utf16Char UInt16.ofNat part.render.toList part.pieces := by
  cases part with
  | code js =>
      obtain ⟨pieces, hpieces⟩ := Option.isSome_iff_exists.mp h
      rw [ScriptPart.pieces, hpieces]
      exact scan_eq_some.mp hpieces
  | number n =>
      rw [ScriptPart.render, String.toList_ofList]
      apply Scans.code
      intro c hc
      exact isCode_of_isDigit (Nat.isDigit_of_mem_toDigits (by decide) (by decide) hc)
  | text value => exact getQuotedJSONString_scans value
  | texts values => exact jsValues_scans values

theorem render_scans {parts : List ScriptPart} (h : parts.all ScriptPart.isClosed = true) :
    Scans utf16Char UInt16.ofNat (render parts).toList (parts.flatMap ScriptPart.pieces) := by
  have hfold : ∀ (parts : List ScriptPart) (script : String) (pieces : List (Piece UInt16)),
      parts.all ScriptPart.isClosed = true → Scans utf16Char UInt16.ofNat script.toList pieces →
        Scans utf16Char UInt16.ofNat
          (parts.foldl (fun script part => script ++ part.render) script).toList
          (pieces ++ parts.flatMap ScriptPart.pieces) := by
    intro parts
    induction parts with
    | nil =>
        intro script pieces _ hscript
        simpa using hscript
    | cons part parts ih =>
        intro script pieces hclosed hscript
        rw [List.all_cons, Bool.and_eq_true] at hclosed
        rw [List.foldl_cons, List.flatMap_cons, ← List.append_assoc]
        apply ih _ _ hclosed.2
        rw [String.toList_append]
        exact hscript.append (ScriptPart.scans hclosed.1)
  have hrender := hfold parts "" [] h .nil
  rwa [List.nil_append] at hrender

end Reading

namespace TextScript

/-- The same request with empty texts. -/
def blank : TextScript → TextScript
  | domType index _ clear => domType index "" clear
  | domSelect index values => domSelect index (values.map fun _ => "")
  | selectFocused values => selectFocused (values.map fun _ => "")
  | waitSelector timeout _ => waitSelector timeout ""
  | waitText timeout _ => waitText timeout ""

/-- What the page is to read in the script. -/
def pieces (script : TextScript) : List (Piece UInt16) :=
  script.parts.flatMap ScriptPart.pieces

/-- The part of the script that is not fixed. -/
def textPart : TextScript → ScriptPart
  | domType _ text _ => .text text
  | domSelect _ values => .texts values
  | selectFocused values => .texts values
  | waitSelector _ selector => .text selector
  | waitText _ text => .text text

end TextScript

/-- The code of a script, with the places of the literals. -/
def codeOf (pieces : List (Piece UInt16)) : List (Option Char) :=
  pieces.map fun piece =>
    match piece with
    | .code c => some c
    | .literal _ => none

/-- The values of the literals. -/
def literalsOf (pieces : List (Piece UInt16)) : List (List UInt16) :=
  pieces.filterMap fun piece =>
    match piece with
    | .code _ => none
    | .literal value => some value

/-- The texts of a request, in their order. -/
def ScriptPart.values : ScriptPart → List String
  | text value => [value]
  | texts values => values
  | _ => []

def ScriptPart.blank : ScriptPart → ScriptPart
  | code js => code js
  | number n => number n
  | text _ => text ""
  | texts values => texts (values.map fun _ => "")

/-- The strings of code in the parts of a script. -/
def codeTexts (parts : List ScriptPart) : List String :=
  parts.filterMap fun part =>
    match part with
    | .code js => some js
    | _ => none

section Scripts

variable {parts : List ScriptPart}

theorem all_isClosed (h : (codeTexts parts).all (fun js => (readScript js).isSome) = true) :
    parts.all ScriptPart.isClosed = true := by
  induction parts with
  | nil => rfl
  | cons part parts ih =>
      cases part with
      | code js =>
          simp only [codeTexts, List.filterMap_cons, List.all_cons, Bool.and_eq_true] at h
          rw [List.all_cons, Bool.and_eq_true]
          exact ⟨h.1, ih h.2⟩
      | number n => simpa [ScriptPart.isClosed] using ih h
      | text value => simpa [ScriptPart.isClosed] using ih h
      | texts values => simpa [ScriptPart.isClosed] using ih h

/-- A string literal is the string of its characters. -/
theorem isSome_readScript_ofList {chars : List Char}
    (h : (scan utf16Char UInt16.ofNat chars).isSome = true) :
    (readScript (String.ofList chars)).isSome = true := by
  rw [readScript, String.toList_ofList]
  exact h

/-- Code and what comes after it. -/
theorem isClosed_cons {chars : List Char} {rest : List String}
    (h : (scan utf16Char UInt16.ofNat chars).isSome = true)
    (hrest : rest.all (fun js => (readScript js).isSome) = true) :
    (String.ofList chars :: rest).all (fun js => (readScript js).isSome) = true := by
  rw [List.all_cons, isSome_readScript_ofList h, hrest]
  rfl

theorem TextScript.isClosed (script : TextScript) :
    script.parts.all ScriptPart.isClosed = true := by
  apply all_isClosed
  cases script with
  | domType index text clear =>
      cases clear
      all_goals
        repeat' refine isClosed_cons (by decide +kernel) ?_
        rfl
  | domSelect index values =>
      repeat' refine isClosed_cons (by decide +kernel) ?_
      rfl
  | selectFocused values =>
      repeat' refine isClosed_cons (by decide +kernel) ?_
      rfl
  | waitSelector timeout selector =>
      repeat' refine isClosed_cons (by decide +kernel) ?_
      rfl
  | waitText timeout text =>
      repeat' refine isClosed_cons (by decide +kernel) ?_
      rfl

theorem codeOf_blank (part : ScriptPart) : codeOf part.blank.pieces = codeOf part.pieces := by
  cases part with
  | code js => rfl
  | number n => rfl
  | text value => rfl
  | texts values =>
      have hmap (values : List String) :
          codeOf (ScriptPart.texts values).pieces =
            (values.map fun _ => none).intersperse (some ',') := by
        rw [codeOf, ScriptPart.pieces, map_intersperse]
        simp [Function.comp_def]
      rw [ScriptPart.blank, hmap, hmap]
      simp

theorem TextScript.parts_blank (script : TextScript) :
    script.blank.parts = script.parts.map ScriptPart.blank := by
  cases script with
  | domType index text clear => cases clear <;> rfl
  | domSelect index values => rfl
  | selectFocused values => rfl
  | waitSelector timeout selector => rfl
  | waitText timeout text => rfl

theorem codeOf_pieces_blank (script : TextScript) :
    codeOf script.blank.pieces = codeOf script.pieces := by
  rw [TextScript.pieces, TextScript.pieces, TextScript.parts_blank, codeOf, codeOf,
    List.flatMap_map, List.map_flatMap, List.map_flatMap]
  congr 1
  funext part
  exact codeOf_blank part

theorem literalsOf_texts (values : List String) :
    literalsOf (ScriptPart.texts values).pieces = values.map utf16 := by
  cases values with
  | nil => rfl
  | cons value values =>
      rw [ScriptPart.pieces, List.map_cons, intersperse_eq, List.flatMap_map, literalsOf,
        List.filterMap_cons, List.filterMap_flatMap, List.map_cons]
      induction values with
      | nil => rfl
      | cons value values ih => simpa using ih

theorem literalsOf_textPart (script : TextScript) :
    literalsOf script.textPart.pieces = script.textPart.values.map utf16 := by
  cases script with
  | domType index text clear => rfl
  | domSelect index values => exact literalsOf_texts values
  | selectFocused values => exact literalsOf_texts values
  | waitSelector timeout selector => rfl
  | waitText timeout text => rfl

theorem textPart_mem (script : TextScript) : script.textPart ∈ script.parts := by
  have hsecond {a b : ScriptPart} {front rest : List ScriptPart} : b ∈ front ++ a :: b :: rest :=
    List.mem_append_right _ (List.mem_cons_of_mem _ List.mem_cons_self)
  cases script with
  | domType index text clear => exact hsecond
  | domSelect index values => exact List.mem_append_left _ hsecond
  | selectFocused values => exact List.mem_append_left _ hsecond
  | waitSelector timeout selector =>
      exact @hsecond (.code ";  const selector = ") _ [.code _, .number timeout] _
  | waitText timeout text =>
      exact @hsecond (.code ";  const text = ") _ [.code _, .number timeout] _

theorem infix_literalsOf {part : ScriptPart} (h : part ∈ parts) :
    literalsOf part.pieces <:+: literalsOf (parts.flatMap ScriptPart.pieces) := by
  obtain ⟨front, back, rfl⟩ := List.append_of_mem h
  refine ⟨literalsOf (front.flatMap ScriptPart.pieces),
    literalsOf (back.flatMap ScriptPart.pieces), ?_⟩
  simp [literalsOf, List.flatMap_append, List.flatMap_cons, List.filterMap_append]

theorem readScript_expression (script : TextScript) :
    readScript script.expression = some script.pieces :=
  scan_eq_some.mpr (render_scans script.isClosed)

end Scripts

/-- Whatever the texts of a request are, the page reads in its script the texts themselves, each as
one literal, and code that does not depend on them: two requests that differ in their texts alone
have the same code. -/
theorem textScript_readsBack (script : TextScript) :
    (∃ pieces, readScript script.expression = some pieces ∧
      script.textPart.values.map utf16 <:+: literalsOf pieces) ∧
      ∀ other : TextScript, other.blank = script.blank →
        (readScript other.expression).map codeOf = (readScript script.expression).map codeOf := by
  constructor
  · refine ⟨script.pieces, readScript_expression script, ?_⟩
    rw [← literalsOf_textPart]
    exact infix_literalsOf (textPart_mem script)
  · intro other hblank
    rw [readScript_expression, readScript_expression, Option.map_some, Option.map_some,
      ← codeOf_pieces_blank other, hblank, codeOf_pieces_blank]

end Browserd
