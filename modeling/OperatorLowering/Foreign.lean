/-
**Foreign values.**

A caller may hand over a value that is none of the kinds a request knows. Such a value is carried
only to be named in the message that refuses it: by the name of its type, or in its written form, in
which lists stand between brackets and records between braces.

* `Foreign.typeName`: the name of a value's type;
* `Foreign.shown`: the written form of a value.
-/

import OperatorLowering.Number
import OperatorLowering.Text.Quoted

namespace OperatorLowering

/-- A value of no kind that a request knows. -/
inductive Foreign where
  | null
  | truth (value : Bool)
  | number (value : Number)
  | text (value : String)
  | list (items : List Foreign)
  | record (entries : List (String × Foreign))

namespace Foreign

/-! ### Equality -/

mutual

/-- Equality of values is decided part by part. -/
def decideEq : (first second : Foreign) → Decidable (first = second)
  | .null, .null => isTrue rfl
  | .truth first, .truth second => decidable_of_iff (first = second) (by simp)
  | .number first, .number second => decidable_of_iff (first = second) (by simp)
  | .text first, .text second => decidable_of_iff (first = second) (by simp)
  | .list first, .list second =>
    have := decideItemsEq first second
    decidable_of_iff (first = second) (by simp)
  | .record first, .record second =>
    have := decideEntriesEq first second
    decidable_of_iff (first = second) (by simp)
  | .null, .truth _ | .null, .number _ | .null, .text _ | .null, .list _ | .null, .record _
  | .truth _, .null | .truth _, .number _ | .truth _, .text _ | .truth _, .list _
  | .truth _, .record _ | .number _, .null | .number _, .truth _ | .number _, .text _
  | .number _, .list _ | .number _, .record _ | .text _, .null | .text _, .truth _
  | .text _, .number _ | .text _, .list _ | .text _, .record _ | .list _, .null
  | .list _, .truth _ | .list _, .number _ | .list _, .text _ | .list _, .record _
  | .record _, .null | .record _, .truth _ | .record _, .number _ | .record _, .text _
  | .record _, .list _ => isFalse (by simp)

/-- Equality of the items of lists. -/
def decideItemsEq : (first second : List Foreign) → Decidable (first = second)
  | [], [] => isTrue rfl
  | head :: rest, head' :: rest' =>
    have := decideEq head head'
    have := decideItemsEq rest rest'
    decidable_of_iff (head = head' ∧ rest = rest') (by simp)
  | [], _ :: _ | _ :: _, [] => isFalse (by simp)

/-- Equality of the entries of records. -/
def decideEntriesEq : (first second : List (String × Foreign)) → Decidable (first = second)
  | [], [] => isTrue rfl
  | (name, value) :: rest, (name', value') :: rest' =>
    have := decideEq value value'
    have := decideEntriesEq rest rest'
    decidable_of_iff ((name = name' ∧ value = value') ∧ rest = rest') (by simp)
  | [], _ :: _ | _ :: _, [] => isFalse (by simp)

end

instance : DecidableEq Foreign := decideEq

/-! ### In messages -/

/-- The name of the value's type in messages. -/
def typeName : Foreign → String
  | .null => "NoneType"
  | .truth _ => "bool"
  | .number (.integer _) => "int"
  | .number (.real _) => "float"
  | .text _ => "str"
  | .list _ => "list"
  | .record _ => "dict"

mutual

/-- The value as messages show it. -/
def shown : Foreign → String
  | .null => "None"
  | .truth true => "True"
  | .truth false => "False"
  | .number value => value.text
  | .text value => Text.quoted value
  | .list items => "[" ++ String.intercalate ", " (shownItems items) ++ "]"
  | .record entries => "\x7b" ++ String.intercalate ", " (shownEntries entries) ++ "\x7d"

/-- The items of a list as messages show them. -/
def shownItems : List Foreign → List String
  | [] => []
  | item :: rest => item.shown :: shownItems rest

/-- The entries of a record as messages show them, each name in front of its value. -/
def shownEntries : List (String × Foreign) → List String
  | [] => []
  | (name, value) :: rest => (Text.quoted name ++ ": " ++ value.shown) :: shownEntries rest

end

end Foreign

end OperatorLowering
