import Mathlib.Data.List.Basic

/-!
# JSON values

The part of `base::Value` the MCP layer reads and builds. A dictionary is kept as an
association list with one entry for each key; only `find` and `set` observe it.
-/

namespace Browserd

/-- `base::Value`. A double is kept as its bit pattern; nothing computes with it. -/
inductive Value where
  | none
  | boolean (b : Bool)
  | integer (n : Int32)
  | double (bits : UInt64)
  | string (s : String)
  | binary (bytes : List UInt8)
  | dict (entries : List (String × Value))
  | list (items : List Value)

/-- `base::DictValue`. -/
abbrev DictValue := List (String × Value)

/-- `base::ListValue`. -/
abbrev ListValue := List Value

namespace DictValue

def find (d : DictValue) (key : String) : Option Value := List.lookup key d

def findString (d : DictValue) (key : String) : Option String :=
  match d.find key with
  | some (.string s) => some s
  | _ => none

def findDict (d : DictValue) (key : String) : Option DictValue :=
  match d.find key with
  | some (.dict entries) => some entries
  | _ => none

def findInt (d : DictValue) (key : String) : Option Int32 :=
  match d.find key with
  | some (.integer n) => some n
  | _ => none

def findBool (d : DictValue) (key : String) : Option Bool :=
  match d.find key with
  | some (.boolean b) => some b
  | _ => none

def findList (d : DictValue) (key : String) : Option ListValue :=
  match d.find key with
  | some (.list items) => some items
  | _ => none

/-- Replaces the entry of `key`, or adds one. -/
def set (d : DictValue) (key : String) (value : Value) : DictValue :=
  match d with
  | [] => [(key, value)]
  | (k, v) :: rest => if k = key then (key, value) :: rest else (k, v) :: set rest key value

@[simp] theorem find_nil (key : String) : find [] key = none := rfl

theorem find_cons (k key : String) (v : Value) (d : DictValue) :
    find ((k, v) :: d) key = if key = k then some v else find d key := by
  by_cases h : key = k
  · subst h
    rw [find, List.lookup_cons_self, if_pos rfl]
  · have hb : (key == k) = false := by simpa using h
    simp [find, List.lookup_cons, h, hb]

theorem find_set (d : DictValue) (k key : String) (v : Value) :
    (d.set k v).find key = if key = k then some v else d.find key := by
  induction d with
  | nil => simp [set, find_cons]
  | cons entry d ih =>
      obtain ⟨k', v'⟩ := entry
      by_cases hk : k' = k
      · subst hk
        simp only [set, if_true, find_cons]
        split <;> rfl
      · simp only [set, if_neg hk, find_cons, ih]
        by_cases h : key = k'
        · subst h
          simp [hk]
        · simp [h]

@[simp] theorem find_set_self (d : DictValue) (k : String) (v : Value) :
    (d.set k v).find k = some v := by
  simp [find_set]

@[simp] theorem find_set_ne (d : DictValue) {k key : String} (v : Value) (h : key ≠ k) :
    (d.set k v).find key = d.find key := by
  simp [find_set, h]

end DictValue

end Browserd
