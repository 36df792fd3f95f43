import Mathlib.Data.List.Basic

/-!
# Quoted texts

A text in quotes, with an escape before each quote and each escape in it. Where a quote after a
separator opens it and a quote at the end closes it, it is read in one way only, whatever comes
before.
-/

namespace Quoted

variable {α : Type*} [DecidableEq α] {esc quote sep : α}

/-- The text with `esc` before each `esc` and `quote`. -/
def escape (esc quote : α) (text : List α) : List α :=
  text.flatMap fun c => if c = esc ∨ c = quote then [esc, c] else [c]

/-- The text that is escaped; none if a quote stands alone or an escape is the last. -/
def unescape (esc quote : α) : List α → Option (List α)
  | [] => some []
  | [c] => if c = esc ∨ c = quote then none else some [c]
  | c :: d :: rest =>
      if c = esc then (unescape esc quote rest).map (d :: ·)
      else if c = quote then none
      else (unescape esc quote (d :: rest)).map (c :: ·)

/-- `text` ends with `name` in quotes, and a separator is before them. -/
def EndsWith (esc quote sep : α) (text name : List α) : Prop :=
  ∃ front body, text = front ++ sep :: quote :: body ++ [quote] ∧
    unescape esc quote body = some name

theorem unescape_plain {c : α} (hesc : c ≠ esc) (hquote : c ≠ quote) (rest : List α) :
    unescape esc quote (c :: rest) = (unescape esc quote rest).map (c :: ·) := by
  cases rest with
  | nil => simp [unescape, hesc, hquote]
  | cons d rest => simp [unescape, hesc, hquote]

theorem unescape_escaped (c : α) (rest : List α) :
    unescape esc quote (esc :: c :: rest) = (unescape esc quote rest).map (c :: ·) := by
  simp [unescape]

theorem unescape_quote (h : esc ≠ quote) (rest : List α) :
    unescape esc quote (quote :: rest) = none := by
  cases rest with
  | nil => simp [unescape]
  | cons d rest => simp [unescape, h.symm]

theorem unescape_escape (text : List α) :
    unescape esc quote (escape esc quote text) = some text := by
  induction text with
  | nil => rfl
  | cons c text ih =>
      rw [escape, List.flatMap_cons]
      by_cases hspecial : c = esc ∨ c = quote
      · rw [if_pos hspecial, List.cons_append, List.cons_append, List.nil_append,
          unescape_escaped]
        exact congrArg (Option.map (c :: ·)) ih
      · rw [if_neg hspecial, List.cons_append, List.nil_append,
          unescape_plain (fun h => hspecial (.inl h)) (fun h => hspecial (.inr h))]
        exact congrArg (Option.map (c :: ·)) ih

/-- A quote after a separator is not escaped. -/
theorem unescape_append_quote (hquote : esc ≠ quote) (hsep : sep ≠ esc) (front rest : List α) :
    unescape esc quote (front ++ sep :: quote :: rest) = none := by
  have hopen : unescape esc quote (sep :: quote :: rest) = none := by
    by_cases h : sep = quote
    · rw [h, unescape_quote hquote]
    · rw [unescape_plain hsep h, unescape_quote hquote, Option.map_none]
  fun_induction unescape esc quote front with
  | case1 => exact hopen
  | case2 c h =>
      rcases h with rfl | rfl
      · rw [List.cons_append, List.nil_append, unescape_escaped, unescape_quote hquote,
          Option.map_none]
      · exact unescape_quote hquote _
  | case3 c h =>
      rw [List.cons_append, List.nil_append, unescape_plain (fun heq => h (.inl heq))
        (fun heq => h (.inr heq)), hopen, Option.map_none]
  | case4 d front ih =>
      rw [List.cons_append, List.cons_append, unescape_escaped, ih, Option.map_none]
  | case5 d front h => exact unescape_quote hquote _
  | case6 c d front hesc hne ih =>
      rw [List.cons_append, unescape_plain hesc hne, ih, Option.map_none]

/-- Of two opening quotes neither is inside of the text that the other one opens. -/
theorem opens_once (hquote : esc ≠ quote) (hsep : sep ≠ esc) (hne : sep ≠ quote)
    {gap body inner text : List α} (h : sep :: quote :: body = gap ++ sep :: quote :: inner)
    (hbody : unescape esc quote body = some text) : body = inner := by
  match gap with
  | [] => simpa using h
  | [c] =>
      simp only [List.cons_append, List.nil_append, List.cons.injEq] at h
      exact absurd h.2.1.symm hne
  | c :: d :: gap =>
      simp only [List.cons_append, List.cons.injEq] at h
      rw [h.2.2, unescape_append_quote hquote hsep] at hbody
      cases hbody

/-- The name at the end of a text is read in one way. -/
theorem endsWith_iff (hquote : esc ≠ quote) (hsep : sep ≠ esc) (hne : sep ≠ quote)
    (front name other : List α) :
    EndsWith esc quote sep (front ++ sep :: quote :: escape esc quote name ++ [quote]) other ↔
      other = name := by
  constructor
  · intro h
    obtain ⟨front', body, htext, hbody⟩ := h
    have htext := List.append_cancel_right htext
    have hescape := @unescape_escape _ _ esc quote name
    have hsame : body = escape esc quote name := by
      rcases List.append_eq_append_iff.mp htext with ⟨gap, -, hgap⟩ | ⟨gap, -, hgap⟩
      · exact (opens_once hquote hsep hne hgap hescape).symm
      · exact opens_once hquote hsep hne hgap hbody
    rw [hsame, hescape] at hbody
    exact (Option.some.inj hbody).symm
  · intro h
    subst h
    exact ⟨front, _, rfl, unescape_escape _⟩

end Quoted
