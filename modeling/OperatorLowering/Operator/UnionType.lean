/-
**Unions of types.**

A union holds the values of its members. It is kept flat: a union inside is replaced by its members,
an optional type by what it makes optional and the absent value, and any number by the three kinds
of numbers there are. Of two members that have a common form only that form is kept, so a member
under another one is dropped; the absent value stays apart. A union has two members at least. One of
a single type and the absent value is that optional type, and so is one of all numbers and the
absent value.

* `ValueType.isUnder`: every value of one type is one of the other;
* `ValueType.join?`: the common form of two types;
* `ValueType.unionOf?`, `ValueType.optionalOf?`: the union of types, a type made optional.
-/

import OperatorLowering.Operator.ValueType

namespace OperatorLowering

namespace ValueType

/-- The type of the absent value. -/
def absent : ValueType := .base .absent

/-- The type of any number. -/
def scalar : ValueType := .base .scalar

/-- The three kinds of numbers. -/
def numbers : List ValueType := [.base .int, .base .float, .base .complex]

/-! ### Order -/

/-- The type is a union of just the three kinds of numbers. -/
def isNumberUnion : ValueType → Bool
  | .compound .union types => types.length = 3 && numbers.all types.contains
  | _ => false

mutual

/-- The types are one; unions name their members in any order, and the union of the kinds of numbers
is the type of any number. -/
def isSame : ValueType → ValueType → Bool
  | .base .scalar, .compound former types => isNumberUnion (.compound former types)
  | .compound former types, .base .scalar => isNumberUnion (.compound former types)
  | .base first, .base second => first = second
  | .optional first, .optional second => isSame first second
  | .list first, .list second => isSame first second
  | .compound .union first, .compound .union second =>
    first.length = second.length && areAmong first second
  | .compound former first, .compound former' second => former = former' && areSame first second
  | _, _ => false
termination_by first second => sizeOf first + sizeOf second

/-- The types are one, item by item. -/
def areSame : List ValueType → List ValueType → Bool
  | [], [] => true
  | a :: first, b :: second => isSame a b && areSame first second
  | _, _ => false
termination_by first second => sizeOf first + sizeOf second

/-- The type is one of the others. -/
def isAmong (type : ValueType) : List ValueType → Bool
  | [] => false
  | other :: rest => isSame type other || isAmong type rest
termination_by others => sizeOf type + sizeOf others

/-- Each of the types is one of the others. -/
def areAmong : List ValueType → List ValueType → Bool
  | [], _ => true
  | type :: rest, others => isAmong type others && areAmong rest others
termination_by types others => sizeOf types + sizeOf others

end

mutual

/-- Every value of the first type is one of the second. Tuples, futures, awaited and remote values
are under others part by part; lists and dictionaries are under nothing but themselves. -/
def isUnder (first second : ValueType) : Bool :=
  second = .base .any || isSame first second ||
    match first, second with
    | .base .absent, .optional _ => true
    | .base .int, .base .scalar | .base .float, .base .scalar | .base .complex, .base .scalar =>
      true
    | .base (.object _), .base .anyObject => true
    | .optional first, .optional second => isUnder first second
    | .optional first, .compound .union types =>
      types.contains absent && isUnderAny first types
    | .compound .union types, .optional second => areUnderOptional types second
    | .compound .union types, .compound .union others => areUnderAny types others
    | .compound .union types, second => areUnder types second
    | first, .optional second => isUnder first second
    | first, .compound .union types => isUnderAny first types
    | .compound .tuple types, .compound .tuple others => areUnderPairwise types others
    | .compound .future [first], .compound .future [second]
    | .compound .awaited [first], .compound .awaited [second]
    | .compound .remote [first], .compound .remote [second] => isUnder first second
    | _, _ => false
termination_by sizeOf first + sizeOf second

/-- The type is under one of the others. -/
def isUnderAny (type : ValueType) : List ValueType → Bool
  | [] => false
  | other :: rest => isUnder type other || isUnderAny type rest
termination_by others => sizeOf type + sizeOf others

/-- Each of the types is under another. -/
def areUnder (types : List ValueType) (other : ValueType) : Bool :=
  match types with
  | [] => true
  | type :: rest => isUnder type other && areUnder rest other
termination_by sizeOf types + sizeOf other

/-- Each of the types is the absent value's or under another. -/
def areUnderOptional (types : List ValueType) (other : ValueType) : Bool :=
  match types with
  | [] => true
  | type :: rest => (type = absent || isUnder type other) && areUnderOptional rest other
termination_by sizeOf types + sizeOf other

/-- Each of the types is under one of the others. -/
def areUnderAny (types others : List ValueType) : Bool :=
  match types with
  | [] => true
  | type :: rest => isUnderAny type others && areUnderAny rest others
termination_by sizeOf types + sizeOf others

/-- Each of the types is under the one at its place. -/
def areUnderPairwise : List ValueType → List ValueType → Bool
  | [], [] => true
  | type :: rest, other :: others => isUnder type other && areUnderPairwise rest others
  | _, _ => false
termination_by types others => sizeOf types + sizeOf others

end

/-! ### Common forms -/

/-- The type made optional, unless it has the absent value as it is. -/
def withAbsent (type : ValueType) : ValueType :=
  if type = absent ∨ type.isOptional then type else .optional type

mutual

/-- The common form of two types: the greater one, or what their parts have in common. -/
def join? (first second : ValueType) : Option ValueType :=
  if isUnder first second then some second
  else if isUnder second first then some first
  else
    match first, second with
    | .base .absent, other => some other.withAbsent
    | other, .base .absent => some other.withAbsent
    | .optional first, second => (join? first second).map withAbsent
    | first, .optional second => (join? first second).map withAbsent
    | .compound .tuple types, .compound .tuple others =>
      (joinPairwise? types others).map (.compound .tuple)
    | .compound .future [first], .compound .future [second] =>
      (join? first second).map fun type => .compound .future [type]
    | _, _ => none
termination_by sizeOf first + sizeOf second

/-- The common forms of types at the same place. -/
def joinPairwise? : List ValueType → List ValueType → Option (List ValueType)
  | [], [] => some []
  | type :: rest, other :: others => do
    let common ← join? type other
    let behind ← joinPairwise? rest others
    return common :: behind
  | _, _ => none
termination_by types others => sizeOf types + sizeOf others

end

/-! ### Members -/

mutual

/-- The types whose values are those of the type, none of them a union. -/
def flatten : ValueType → List ValueType
  | .optional type => flatten type ++ [absent]
  | .compound .union types => flattenAll types
  | .base .scalar => numbers
  | type => [type]

/-- The types whose values are those of any of the types, none of them a union. -/
def flattenAll : List ValueType → List ValueType
  | [] => []
  | type :: rest => flatten type ++ flattenAll rest

end

/-- The types with the first that has a common form with another one replaced by that form; the
absent value is in common with itself alone. -/
def absorb? (type : ValueType) : List ValueType → Option (List ValueType)
  | [] => none
  | other :: rest =>
    match (if type = absent ↔ other = absent then join? type other else none) with
    | some common => some (common :: rest)
    | none => (absorb? type rest).map (other :: ·)

/-- Absorbing a type keeps the number of the others. -/
theorem length_of_absorb? {type : ValueType} {types after : List ValueType}
    (absorbed : absorb? type types = some after) : after.length = types.length := by
  induction types generalizing after with
  | nil => simp [absorb?] at absorbed
  | cons other rest ih =>
    unfold absorb? at absorbed
    split at absorbed
    · simp_all [← Option.some.inj absorbed]
    · obtain ⟨behind, found, rfl⟩ := Option.map_eq_some_iff.1 absorbed
      simp [ih found]

/-- The types without those that have a common form with a later one; that one becomes the form. -/
def distinct (types : List ValueType) : List ValueType :=
  match types with
  | [] => []
  | type :: rest =>
    match _ : absorb? type rest with
    | some after => distinct after
    | none => type :: distinct rest
termination_by types.length
decreasing_by
  · simp [length_of_absorb? ‹_›]
  · simp

/-- The members of the union of some types. -/
def members (types : List ValueType) : List ValueType :=
  (distinct (flattenAll types).reverse).reverse

/-! ### Making types -/

/-- The union of types, if it has two members. -/
def unionOf? (types : List ValueType) : Option ValueType :=
  let members := members types
  if members.length < 2 then none
  else if members.contains absent then
    match members.filter (· ≠ absent) with
    | [type] => some (.optional type)
    | others =>
      if isNumberUnion (.compound .union others) then some (.optional scalar)
      else some (.compound .union members)
  else some (.compound .union members)

/-- The type made optional; the absent value alone cannot be. -/
def optionalOf? (type : ValueType) : Option ValueType :=
  match (members [type, absent]).filter (· ≠ absent) with
  | [] => none
  | [inner] => some (.optional inner)
  | others =>
    if type = scalar ∨ isNumberUnion type then some (.optional scalar)
    else (unionOf? others).map .optional

/-- A dictionary; not every type can be the type of its keys. -/
def dictionaryOf? (key value : ValueType) : Option ValueType :=
  match key with
  | .base .any | .base .int | .base .bool | .base .float | .base .complex | .base .str
  | .base .tensor | .base .device => some (.compound .dictionary [key, value])
  | _ => none

end ValueType

end OperatorLowering
