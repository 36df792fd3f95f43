import Mathlib.Data.List.Basic

/-!
# Keys

The key codes, modifiers and DOM keys that browserd sends for a character or a named key. A
character is a byte of the text, as a signed `char`.
-/

namespace Browserd

inductive Modifiers where
  | noModifiers
  | shiftKey
  deriving DecidableEq

inductive DomKey where
  | none
  | enter
  | tab
  | escape
  | backspace
  | del
  | arrowUp
  | arrowDown
  | arrowLeft
  | arrowRight
  | fromCharacter (character : UInt32)
  deriving DecidableEq

structure KeyMapping where
  windowsKeyCode : Int
  modifiers : Modifiers
  domKey : DomKey
  deriving DecidableEq

-- The values of `ui::KeyboardCode`.
namespace VKey

def back : Int := 0x08
def tab : Int := 0x09
def return_ : Int := 0x0D
def escape : Int := 0x1B
def space : Int := 0x20
def left : Int := 0x25
def up : Int := 0x26
def right : Int := 0x27
def down : Int := 0x28
def delete : Int := 0x2E
def digit (n : Nat) : Int := 0x30 + n
def letter (n : Nat) : Int := 0x41 + n
def oem1 : Int := 0xBA
def oemPlus : Int := 0xBB
def oemComma : Int := 0xBC
def oemMinus : Int := 0xBD
def oemPeriod : Int := 0xBE
def oem2 : Int := 0xBF
def oem3 : Int := 0xC0
def oem4 : Int := 0xDB
def oem5 : Int := 0xDC
def oem6 : Int := 0xDD
def oem7 : Int := 0xDE

end VKey

/-- The `switch` of `MapCharacter`. -/
def mapPunctuation : UInt8 → Int × Modifiers
  | 0x21 => (VKey.digit 1, .shiftKey) -- !
  | 0x40 => (VKey.digit 2, .shiftKey) -- @
  | 0x23 => (VKey.digit 3, .shiftKey) -- #
  | 0x24 => (VKey.digit 4, .shiftKey) -- $
  | 0x25 => (VKey.digit 5, .shiftKey) -- %
  | 0x5E => (VKey.digit 6, .shiftKey) -- ^
  | 0x26 => (VKey.digit 7, .shiftKey) -- &
  | 0x2A => (VKey.digit 8, .shiftKey) -- *
  | 0x28 => (VKey.digit 9, .shiftKey) -- (
  | 0x29 => (VKey.digit 0, .shiftKey) -- )
  | 0x2D => (VKey.oemMinus, .noModifiers) -- -
  | 0x5F => (VKey.oemMinus, .shiftKey) -- _
  | 0x3D => (VKey.oemPlus, .noModifiers) -- =
  | 0x2B => (VKey.oemPlus, .shiftKey) -- +
  | 0x5B => (VKey.oem4, .noModifiers) -- [
  | 0x7B => (VKey.oem4, .shiftKey) -- {
  | 0x5D => (VKey.oem6, .noModifiers) -- ]
  | 0x7D => (VKey.oem6, .shiftKey) -- }
  | 0x5C => (VKey.oem5, .noModifiers) -- backslash
  | 0x7C => (VKey.oem5, .shiftKey) -- |
  | 0x3B => (VKey.oem1, .noModifiers) -- ;
  | 0x3A => (VKey.oem1, .shiftKey) -- :
  | 0x27 => (VKey.oem7, .noModifiers) -- single quote
  | 0x22 => (VKey.oem7, .shiftKey) -- double quote
  | 0x2C => (VKey.oemComma, .noModifiers) -- ,
  | 0x3C => (VKey.oemComma, .shiftKey) -- <
  | 0x2E => (VKey.oemPeriod, .noModifiers) -- .
  | 0x3E => (VKey.oemPeriod, .shiftKey) -- >
  | 0x2F => (VKey.oem2, .noModifiers) -- /
  | 0x3F => (VKey.oem2, .shiftKey) -- ?
  | 0x60 => (VKey.oem3, .noModifiers) -- grave accent
  | 0x7E => (VKey.oem3, .shiftKey) -- ~
  | _ => (0, .noModifiers)

/-- The value of a signed `char`. -/
def charValue (c : UInt8) : Int := c.toInt8.toInt

def mapCharacter (c : UInt8) : KeyMapping :=
  let domKey := DomKey.fromCharacter (UInt32.ofInt (charValue c))
  if 0x61 ≤ c ∧ c ≤ 0x7A then ⟨VKey.letter (c.toNat - 0x61), .noModifiers, domKey⟩
  else if 0x41 ≤ c ∧ c ≤ 0x5A then ⟨VKey.letter (c.toNat - 0x41), .shiftKey, domKey⟩
  else if 0x30 ≤ c ∧ c ≤ 0x39 then ⟨VKey.digit (c.toNat - 0x30), .noModifiers, domKey⟩
  else if c = 0x20 then ⟨VKey.space, .noModifiers, domKey⟩
  else
    let (code, modifiers) := mapPunctuation c
    ⟨code, modifiers, domKey⟩

/-- The mapping of a key that `MapKey` does not know. -/
def emptyMapping : KeyMapping := ⟨0, .noModifiers, .none⟩

def mapKey (key : String) : KeyMapping :=
  let named (code : Int) (domKey : DomKey) : KeyMapping := ⟨code, .noModifiers, domKey⟩
  if key = "Enter" then named VKey.return_ .enter
  else if key = "Tab" then named VKey.tab .tab
  else if key = "Escape" then named VKey.escape .escape
  else if key = "Backspace" then named VKey.back .backspace
  else if key = "Delete" then named VKey.delete .del
  else if key = "ArrowUp" then named VKey.up .arrowUp
  else if key = "ArrowDown" then named VKey.down .arrowDown
  else if key = "ArrowLeft" then named VKey.left .arrowLeft
  else if key = "ArrowRight" then named VKey.right .arrowRight
  else if key = " " ∨ key = "Space" then named VKey.space (.fromCharacter 0x20)
  else
    match key.toUTF8.toList with
    | [c] => mapCharacter c
    | _ => emptyMapping

end Browserd
