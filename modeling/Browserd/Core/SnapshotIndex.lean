import Browserd.Core.SnapshotNames
import Browserd.Lib.OrderedUnion

/-!
# The snapshot as an index

The lines of a snapshot are to be the elements behind its references, in their order. The role on a
line is the attribute as the page has it, so that it can break a line or stand for a name.
-/

namespace Browserd

namespace DomSnapshot

/-- The element that every snapshot begins with. -/
def rootOf (document : DomDocument) : Option Nat := document.body <|> document.documentElement

/-- The elements that a snapshot lists. -/
def listed (document : DomDocument) (root : Nat) : List Nat :=
  let visible := document.querySelectorAll.filter fun el => isVisible (document.element el)
  (root :: visible).eraseDups.take 500

def roleAt (document : DomDocument) (ref el : Nat) : List UInt16 :=
  if ref = 0 then utf16 "document" else roleFor (document.element el)

def lineAt (document : DomDocument) (ref el : Nat) : List UInt16 :=
  roleAndName (roleAt document ref el) (nameFor (document.element el)) ++ refSuffix ref

/-- `text` ends with `name` in quotes. -/
def EndsWithName (text name : List UInt16) : Prop := Quoted.EndsWith backslash quote space text name

/-- A line is about an element: before its reference it has the role, and the name in quotes that
can be read there is that of the element. -/
def Describes (role name : List UInt16) (ref : Nat) (line : List UInt16) : Prop :=
  ∃ front, line = front ++ refSuffix ref ∧ role <+: front ∧
    ∀ other, EndsWithName front other ↔ name ≠ [] ∧ other = name

/-- A snapshot whose text is an index of its references. -/
structure Faithful (document : DomDocument) (s : DomSnapshot) : Prop where
  atMost : s.refs.length ≤ 500
  terminated : Lines.unterminated newline16 s.text = []
  count : (Lines.terminated newline16 s.text).length = s.refs.length
  describes : ∀ ref el line, s.refs[ref]? = some el →
    (Lines.terminated newline16 s.text)[ref]? = some line →
    Describes (roleAt document ref el) (nameFor (document.element el)) ref line
  addresses : ∀ ref el, s.refs[ref]? = some el →
    parseDomRef (domRef ref) = some (ref : Int) ∧ s.lookup (domRef ref) = some el

/-- A role and a name of which a line can be made. -/
structure Unambiguous (role name : List UInt16) : Prop where
  oneLine : newline16 ∉ role
  noName : name = [] → ∀ other, ¬EndsWithName role other
  notCut : name.getLast? ≠ some space

section Refs

variable {document : DomDocument} {s : DomSnapshot}

/-- What holds of the variables of the script once the root has been added. -/
structure Indexed (document : DomDocument) (s : DomSnapshot) : Prop where
  nonempty : s.refs ≠ []
  distinct : s.refs.eraseDups = s.refs
  atMost : s.refs.length ≤ 500
  lines : s.lines = s.refs.mapIdx (lineAt document)

theorem add_of_mem {el : Nat} (h : el ∈ s.refs) : s.add document (some el) none = s := by
  simp [add, h]

theorem add_of_notMem {el : Nat} (h : el ∉ s.refs) (hs : Indexed document s) :
    s.add document (some el) none =
      ⟨s.refs ++ [el], s.lines ++ [lineAt document s.refs.length el]⟩ := by
  have hne : s.refs.length ≠ 0 := by simpa using hs.nonempty
  simp [add, h, lineAt, roleAt, hne]

theorem Indexed.snoc {el : Nat} (hs : Indexed document s) (h : el ∉ s.refs)
    (hlt : s.refs.length < 500) :
    Indexed document ⟨s.refs ++ [el], s.lines ++ [lineAt document s.refs.length el]⟩ where
  nonempty := by simp
  distinct := by
    rw [List.eraseDups_append, hs.distinct]
    simp [List.removeAll, h, List.eraseDups_cons]
  atMost := by
    rw [List.length_append, List.length_singleton]
    omega
  lines := by rw [hs.lines, List.mapIdx_concat]

/-- The loop goes on to what is listed. -/
theorem addMatches_indexed (rest : List Nat) (hs : Indexed document s) :
    Indexed document (addMatches document rest s) ∧
      (addMatches document rest s).refs =
        (s.refs ++ rest.filter fun el => isVisible (document.element el)).eraseDups.take 500 := by
  induction rest generalizing s with
  | nil =>
      refine ⟨hs, ?_⟩
      rw [addMatches, List.filter_nil, List.append_nil, hs.distinct,
        List.take_of_length_le hs.atMost]
  | cons el rest ih =>
      by_cases hfull : 500 ≤ s.refs.length
      · rw [addMatches, if_pos hfull]
        have hlength : s.refs.length = 500 := le_antisymm hs.atMost hfull
        refine ⟨hs, ?_⟩
        rw [List.eraseDups_append, hs.distinct, List.take_append_of_le_length (by omega),
          List.take_of_length_le (by omega)]
      rw [addMatches, if_neg hfull]
      by_cases hvisible : isVisible (document.element el) = true
      · rw [List.filter_cons, if_pos hvisible, if_neg (by simpa using hvisible)]
        by_cases hmem : el ∈ s.refs
        · rw [add_of_mem hmem, OrderedUnion.eraseDups_append_cons hmem]
          exact ih hs
        · rw [add_of_notMem hmem hs]
          have hnext := ih (hs.snoc hmem (by omega))
          rw [List.append_assoc] at hnext
          exact hnext
      · rw [List.filter_cons, if_neg hvisible, if_pos (by simpa using hvisible)]
        exact ih hs

theorem ofDocument_indexed {root : Nat} (hroot : rootOf document = some root) :
    Indexed document (ofDocument document) ∧ (ofDocument document).refs = listed document root := by
  have hstart : add document (rootOf document) (some (utf16 "document")) ⟨[], []⟩ =
      ⟨[root], [lineAt document 0 root]⟩ := by
    rw [hroot]
    rfl
  have hindexed : Indexed document ⟨[root], [lineAt document 0 root]⟩ := by
    constructor
    case lines => rfl
    case distinct => simp [List.eraseDups_cons]
    all_goals simp
  have hscript : ofDocument document =
      addMatches document document.querySelectorAll ⟨[root], [lineAt document 0 root]⟩ :=
    congrArg (addMatches document document.querySelectorAll) hstart
  rw [hscript]
  exact addMatches_indexed document.querySelectorAll hindexed

end Refs

section Lines

theorem newline16_notMem_refSuffix (ref : Nat) : newline16 ∉ refSuffix ref := by
  intro h
  simp only [refSuffix, utf16, List.mem_flatMap] at h
  obtain ⟨c, hc, hunit⟩ := h
  have hchar : c ∈ " [ref=dom:]".toList ∨ c.isDigit = true := by
    simp only [domRef, String.toList_append, List.mem_append, Nat.toList_repr] at hc
    rcases hc with (hc | hc | hc) | hc
    · exact .inl ((by decide : " [ref=".toList ⊆ " [ref=dom:]".toList) hc)
    · exact .inl ((by decide : "dom:".toList ⊆ " [ref=dom:]".toList) hc)
    · exact .inr (Nat.isDigit_of_mem_toDigits (by decide) (by decide) hc)
    · exact .inl ((by decide : "]".toList ⊆ " [ref=dom:]".toList) hc)
  have hplain : 10 < c.toNat ∧ c.toNat < 0x80 := by
    rcases hchar with hc | hc
    · have hall : (" [ref=dom:]".toList.all fun c => 10 < c.toNat ∧ c.toNat < 0x80) = true := by
        decide
      simpa using List.all_eq_true.mp hall c hc
    · simp only [Char.isDigit, Bool.and_eq_true, decide_eq_true_eq] at hc
      have hlow : (48 : UInt32).toNat ≤ c.val.toNat := UInt32.le_iff_toNat_le.mp hc.1
      have hhigh : c.val.toNat ≤ (57 : UInt32).toNat := UInt32.le_iff_toNat_le.mp hc.2
      have heq : c.toNat = c.val.toNat := rfl
      have h48 : (48 : UInt32).toNat = 48 := rfl
      have h57 : (57 : UInt32).toNat = 57 := rfl
      omega
  rw [utf16Char_of_lt hplain.2, List.mem_singleton] at hunit
  have hnat := congrArg UInt16.toNat hunit
  have hnewline : newline16.toNat = 10 := rfl
  rw [UInt16.toNat_ofNat_of_lt' (show c.toNat < 2 ^ 16 by omega), hnewline] at hnat
  omega

theorem mem_escape {esc quote c : UInt16} {text : List UInt16}
    (h : c ∈ Quoted.escape esc quote text) : c ∈ text ∨ c = esc := by
  rw [Quoted.escape, List.mem_flatMap] at h
  obtain ⟨d, hd, hc⟩ := h
  split at hc
  · rcases List.mem_cons.mp hc with rfl | hc
    · exact .inr rfl
    · exact .inl (List.mem_singleton.mp hc ▸ hd)
  · exact .inl (List.mem_singleton.mp hc ▸ hd)

/-- Only a role can break a line. -/
theorem newline16_mem_line (role text : List UInt16) (ref : Nat) :
    newline16 ∈ roleAndName role text ++ refSuffix ref ↔ newline16 ∈ role := by
  have hname :
      newline16 ∉ (if text ≠ [] then space :: quote :: quoted text ++ [quote] else []) := by
    split
    · intro h
      simp only [List.cons_append, List.mem_cons, List.mem_append, List.not_mem_nil, or_false] at h
      rcases h with h | h | h | h
      · exact absurd h (by decide)
      · exact absurd h (by decide)
      · rcases mem_escape h with h | h
        · exact newline16_notMem_clean text h
        · exact absurd h (by decide)
      · exact absurd h (by decide)
    · exact List.not_mem_nil
  rw [roleAndName, List.mem_append, List.mem_append]
  constructor
  · rintro ((h | h) | h)
    · exact h
    · exact absurd h hname
    · exact absurd h (newline16_notMem_refSuffix ref)
  · exact fun h => .inl (.inl h)

/-- A line is about its element if no name can be read from the role of a nameless one, and the
name is not cut after a space. -/
theorem describes_iff (role text : List UInt16) (ref : Nat) :
    Describes role (clean text) ref (roleAndName role (clean text) ++ refSuffix ref) ↔
      (clean text = [] → ∀ other, ¬EndsWithName role other) ∧
        (clean text).getLast? ≠ some space := by
  have hfront : Describes role (clean text) ref
        (roleAndName role (clean text) ++ refSuffix ref) ↔
      ∀ other, EndsWithName (roleAndName role (clean text)) other ↔
        clean text ≠ [] ∧ other = clean text := by
    constructor
    · intro h
      obtain ⟨front, hline, -, hnames⟩ := h
      rwa [← List.append_cancel_right hline] at hnames
    · intro hnames
      exact ⟨_, rfl, List.prefix_append _ _, hnames⟩
  rw [hfront, ← clean_clean_iff]
  by_cases hempty : clean text = []
  · have hclean : clean ([] : List UInt16) = [] := rfl
    simp [roleAndName, hempty, hclean]
  · have hnames : ∀ other, EndsWithName (roleAndName role (clean text)) other ↔
        other = clean (clean text) := by
      intro other
      rw [roleAndName, if_pos hempty]
      have hread := Quoted.endsWith_iff (show backslash ≠ quote by decide)
        (show space ≠ backslash by decide) (show space ≠ quote by decide) role
        (clean (clean text)) other
      simpa [EndsWithName, quoted] using hread
    simp only [hnames, hempty, ne_eq, not_false_eq_true, true_and, false_implies]
    constructor
    · intro h
      exact (h _).mp rfl
    · intro h other
      rw [h]

theorem parseDomRef_domRef {ref : Nat} (h : ref < 2 ^ 31) :
    parseDomRef (domRef ref) = some (ref : Int) := by
  have hdigits : (domRef ref).toList = "dom:".toList ++ Nat.toDigits 10 ref := by
    rw [domRef, String.toList_append, Nat.toList_repr]
  have hdrop : (domRef ref).toList.drop 4 = Nat.toDigits 10 ref := by
    rw [hdigits]
    exact List.drop_left' rfl
  rw [parseDomRef, if_pos (hdigits ▸ List.prefix_append _ _), hdrop, stringToInt_toDigits,
    if_pos h]
  simp

/-- The lines of a text without a break in any of them. -/
theorem terminated_text {s : DomSnapshot} (hne : s.lines ≠ [])
    (h : ∀ line ∈ s.lines, newline16 ∉ line) :
    Lines.terminated newline16 s.text = s.lines ∧ Lines.unterminated newline16 s.text = [] := by
  have htext : s.text = Lines.join newline16 s.lines ++ [] := by
    rw [List.append_nil, text, Lines.intercalate_append _ hne]
  rw [htext, Lines.terminated_join h, Lines.unterminated_join]
  simp [Lines.terminated_of_notMem, Lines.unterminated_of_notMem]

/-- With one line for each reference no line is broken. -/
theorem newline16_notMem_of_count {s : DomSnapshot} (hne : s.lines ≠ [])
    (hlength : (Lines.terminated newline16 s.text).length = s.lines.length) :
    ∀ line ∈ s.lines, newline16 ∉ line := by
  rw [Lines.length_terminated, text, Lines.intercalate_append _ hne, Lines.count_join] at hlength
  have hsum : (s.lines.map fun line => line.count newline16).sum = 0 := by omega
  intro line hline
  have hzero := List.sum_eq_zero_iff_forall_eq_nat.mp hsum _ (List.mem_map_of_mem hline)
  exact List.count_eq_zero.mp hzero

end Lines

end DomSnapshot

open DomSnapshot in
/-- A snapshot is an index of its references exactly if a line can be made of the role and the name
of each listed element: the role has no line break in it, that of a nameless element does not end
with a name in quotes, and the name is not cut after a space. -/
theorem snapshot_faithful_iff (document : DomDocument) {root : Nat}
    (hroot : rootOf document = some root) :
    Faithful document (ofDocument document) ↔
      ∀ ref el, (listed document root)[ref]? = some el →
        Unambiguous (roleAt document ref el) (nameFor (document.element el)) := by
  obtain ⟨hindexed, hrefs⟩ := ofDocument_indexed hroot
  have hlength : (ofDocument document).lines.length = (ofDocument document).refs.length := by
    rw [hindexed.lines, List.length_mapIdx]
  have hne : (ofDocument document).lines ≠ [] := by
    intro hnil
    apply hindexed.nonempty
    rw [← List.length_eq_zero_iff, ← hlength, hnil]
    rfl
  have hline : ∀ ref el, (ofDocument document).refs[ref]? = some el →
      (ofDocument document).lines[ref]? = some (lineAt document ref el) := by
    intro ref el hel
    rw [hindexed.lines, List.getElem?_mapIdx, hel]
    rfl
  rw [← hrefs]
  constructor
  · intro hfaithful ref el hel
    have hbreaks := newline16_notMem_of_count hne (hfaithful.count.trans hlength.symm)
    have hlines := (terminated_text hne hbreaks).1
    have hmem := List.mem_of_getElem? (hline ref el hel)
    have hdescribes := hfaithful.describes ref el _ hel (hlines ▸ hline ref el hel)
    obtain ⟨hnames, hcut⟩ := (describes_iff _ _ ref).mp hdescribes
    constructor
    case oneLine => exact fun h => hbreaks _ hmem ((newline16_mem_line _ _ ref).mpr h)
    case noName => exact hnames
    case notCut => exact hcut
  · intro hlisted
    have hbreaks : ∀ line ∈ (ofDocument document).lines, newline16 ∉ line := by
      intro line hmem
      obtain ⟨ref, hat⟩ := List.mem_iff_getElem?.mp hmem
      have hlt : ref < (ofDocument document).refs.length := by
        rw [← hlength]
        exact (List.getElem?_eq_some_iff.mp hat).1
      have hel := List.getElem?_eq_getElem hlt
      obtain rfl := Option.some.inj ((hline ref _ hel).symm.trans hat)
      exact fun h => (hlisted ref _ hel).oneLine ((newline16_mem_line _ _ ref).mp h)
    obtain ⟨hlines, hend⟩ := terminated_text hne hbreaks
    constructor
    case atMost => exact hindexed.atMost
    case terminated => exact hend
    case count => rw [hlines, hlength]
    case describes =>
      intro ref el line hel hat
      rw [hlines, hline ref el hel] at hat
      obtain rfl := Option.some.inj hat
      exact (describes_iff _ _ ref).mpr ⟨(hlisted ref el hel).noName, (hlisted ref el hel).notCut⟩
    case addresses =>
      intro ref el hel
      have hlt := (List.getElem?_eq_some_iff.mp hel).1
      have hmost := hindexed.atMost
      have hparse : parseDomRef (domRef ref) = some (ref : Int) := parseDomRef_domRef (by omega)
      refine ⟨hparse, ?_⟩
      rw [lookup, hparse, Option.bind_some, Int.toNat_natCast, hel]

/-- A visible element with a role, a text and nothing else. -/
def roleElement (role text : String) : SnapshotElement where
  getAttribute name := if name = "role" then some (utf16 role) else none
  tagName := utf16 "DIV"
  isContentEditable := false
  value := []
  innerText := utf16 text
  textContent := utf16 text
  href := []
  id := []
  name := []
  display := utf16 "block"
  visibility := utf16 "visible"
  width := 80
  height := 20

/-- A document whose body has one element with a role. -/
def roleDocument (role text : String) : DomDocument where
  element el := if el = 1 then roleElement role text else roleElement "" "Shop"
  body := some 0
  documentElement := some 0
  querySelectorAll := [1]

open DomSnapshot in
theorem snapshot_faithful_sample :
    rootOf (roleDocument "menuitem" "Open \"all\"") = some 0 ∧
      Faithful (roleDocument "menuitem" "Open \"all\"")
        (ofDocument (roleDocument "menuitem" "Open \"all\"")) := by
  refine ⟨rfl, (@snapshot_faithful_iff _ 0 rfl).mpr ?_⟩
  have hlisted : listed (roleDocument "menuitem" "Open \"all\"") 0 = [0, 1] := by decide +kernel
  intro ref el hel
  rw [hlisted] at hel
  match ref, hel with
  | 0, hel =>
      obtain rfl : 0 = el := by simpa using hel
      exact ⟨by decide +kernel, fun h => absurd h (by decide +kernel), by decide +kernel⟩
  | 1, hel =>
      obtain rfl : 1 = el := by simpa using hel
      exact ⟨by decide +kernel, fun h => absurd h (by decide +kernel), by decide +kernel⟩

open DomSnapshot in
/-- A role with a line break adds a line with a reference of its own. -/
theorem role_forges_line :
    ¬ Faithful (roleDocument "menuitem\nlink \"Pay\" [ref=dom:7]" "")
      (ofDocument (roleDocument "menuitem\nlink \"Pay\" [ref=dom:7]" "")) := by
  intro hfaithful
  have hcount := hfaithful.count
  rw [Lines.length_terminated] at hcount
  exact absurd hcount (by decide +kernel)

end Browserd
