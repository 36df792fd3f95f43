import Browserd.Base.UTF16
import Browserd.Core.Interactions
import Browserd.Lib.Quoted

/-!
# The DOM snapshot

The script `kDomSnapshotScript`: the root element and the visible matches of a selector, a line for
each, and the references by which an action finds them again. The strings of the page are lists of
UTF-16 units.
-/

namespace Browserd

/-- What the script reads of an element. A property is the text that it is turned into, empty where
it is missing or falsy. -/
structure SnapshotElement where
  getAttribute : String → Option (List UInt16)
  tagName : List UInt16
  isContentEditable : Bool
  value : List UInt16
  innerText : List UInt16
  textContent : List UInt16
  href : List UInt16
  id : List UInt16
  name : List UInt16
  display : List UInt16
  visibility : List UInt16
  width : Rat
  height : Rat

/-- A document; its elements are known by numbers. -/
structure DomDocument where
  element : Nat → SnapshotElement
  body : Option Nat
  documentElement : Option Nat
  querySelectorAll : List Nat

namespace DomSnapshot

def newline16 : UInt16 := 0x0A

def space : UInt16 := 0x20

def quote : UInt16 := 0x22

def backslash : UInt16 := 0x5C

/-- The units that `\s` matches and `trim` removes. -/
def isSpace (c : UInt16) : Bool :=
  c ∈ [0x09, 0x0A, 0x0B, 0x0C, 0x0D, 0x20, 0xA0, 0x1680, 0x2028, 0x2029, 0x202F, 0x205F, 0x3000,
    0xFEFF] || (0x2000 ≤ c && c ≤ 0x200A)

/-- `replace(/\s+/g, ' ')`, where `inRun` says whether the unit before was a space. -/
def collapse (inRun : Bool) : List UInt16 → List UInt16
  | [] => []
  | c :: rest =>
      if isSpace c then (if inRun then collapse true rest else space :: collapse true rest)
      else c :: collapse false rest

def trim (text : List UInt16) : List UInt16 := (text.dropWhile isSpace).rdropWhile isSpace

def clean (text : List UInt16) : List UInt16 := (trim (collapse false text)).take 160

def quoted (text : List UInt16) : List UInt16 := Quoted.escape backslash quote (clean text)

def isVisible (el : SnapshotElement) : Bool :=
  if el.display = utf16 "none" ∨ el.visibility = utf16 "hidden" then false
  else 0 < el.width ∧ 0 < el.height

/-- `toLowerCase`, as far as ASCII texts come out of it: the Kelvin sign becomes a `k`. -/
def toLowerCase (text : List UInt16) : List UInt16 :=
  text.map fun c =>
    if 0x41 ≤ c && c ≤ 0x5A then c + 0x20 else if c = 0x212A then 0x6B else c

/-- The first of the texts that is not empty, or the empty one. -/
def firstTruthy (texts : List (List UInt16)) : List UInt16 :=
  (texts.find? fun text => !text.isEmpty).getD []

/-- An attribute, empty where it is missing. -/
def attributeOf (el : SnapshotElement) (name : String) : List UInt16 :=
  (el.getAttribute name).getD []

/-- `/^h[1-6]$/`. -/
def isHeadingTag (tag : List UInt16) : Bool :=
  match tag with
  | [h, level] => h = 0x68 && (0x31 ≤ level && level ≤ 0x36)
  | _ => false

def roleFor (el : SnapshotElement) : List UInt16 :=
  let explicit := attributeOf el "role"
  if explicit ≠ [] then explicit
  else
    let tag := toLowerCase el.tagName
    if tag = utf16 "a" then utf16 "link"
    else if tag = utf16 "button" then utf16 "button"
    else if tag = utf16 "select" then utf16 "combobox"
    else if tag = utf16 "textarea" then utf16 "textbox"
    else if tag = utf16 "input" then
      let type := toLowerCase (firstTruthy [attributeOf el "type", utf16 "text"])
      if type = utf16 "checkbox" then utf16 "checkbox"
      else if type = utf16 "radio" then utf16 "radio"
      else if type = utf16 "button" ∨ type = utf16 "submit" ∨ type = utf16 "reset" then
        utf16 "button"
      else utf16 "textbox"
    else if isHeadingTag tag then utf16 "heading"
    else if tag = utf16 "img" then utf16 "img"
    else if tag = utf16 "summary" then utf16 "button"
    else if el.isContentEditable then utf16 "textbox"
    else utf16 "generic"

def nameFor (el : SnapshotElement) : List UInt16 :=
  clean (firstTruthy
    [attributeOf el "aria-label", attributeOf el "alt", attributeOf el "title",
      attributeOf el "placeholder", el.value, el.innerText, el.textContent, el.href, el.id,
      el.name])

/-- The reference of the element in a place. -/
def domRef (ref : Nat) : String := "dom:" ++ ref.repr

/-- What follows the role and the name on a line. -/
def refSuffix (ref : Nat) : List UInt16 := utf16 (" [ref=" ++ domRef ref ++ "]")

/-- The role and the name of a line. -/
def roleAndName (role name : List UInt16) : List UInt16 :=
  role ++ if name ≠ [] then space :: quote :: quoted name ++ [quote] else []

end DomSnapshot

/-- The variables `refs` and `lines` of the script. -/
structure DomSnapshot where
  refs : List Nat
  lines : List (List UInt16)

namespace DomSnapshot

def add (document : DomDocument) (el : Option Nat) (roleOverride : Option (List UInt16))
    (s : DomSnapshot) : DomSnapshot :=
  match el with
  | none => s
  | some el =>
      if s.refs.contains el then s
      else
        let ref := s.refs.length
        let role := roleOverride.getD (roleFor (document.element el))
        let name := nameFor (document.element el)
        { refs := s.refs ++ [el]
          lines := s.lines ++ [roleAndName role name ++ refSuffix ref] }

/-- The loop over the matches of the selector. -/
def addMatches (document : DomDocument) : List Nat → DomSnapshot → DomSnapshot
  | [], s => s
  | el :: rest, s =>
      if 500 ≤ s.refs.length then s
      else if !isVisible (document.element el) then addMatches document rest s
      else addMatches document rest (s.add document (some el) none)

/-- The script; `refs` becomes `window.__browserdDomRefs`. -/
def ofDocument (document : DomDocument) : DomSnapshot :=
  addMatches document document.querySelectorAll
    (add document (document.body <|> document.documentElement) (some (utf16 "document")) ⟨[], []⟩)

/-- What the script returns. -/
def text (s : DomSnapshot) : List UInt16 := [newline16].intercalate s.lines ++ [newline16]

/-- The element that `DomRefPrelude` finds for a reference. -/
def lookup (s : DomSnapshot) (ref : String) : Option Nat :=
  (parseDomRef ref).bind fun index => s.refs[index.toNat]?

end DomSnapshot

end Browserd
