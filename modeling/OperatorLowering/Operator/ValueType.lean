/-
**Types and signatures.**

A signature gives an operator's kind, its parameters with their types, and the types of its results.
A type is a base type, or built from other types. Optional types and lists stand apart from the
other ways to build one, because the outermost of them says how a parameter is bound. The base types
are told apart as far as default values and unions tell them apart.

* `ValueType.isOptional`, `ValueType.isList`: how a parameter of the type is bound;
* `ValueType.plain`: the type as other types contain it.
-/

namespace OperatorLowering

/-- The types that others are built from. -/
inductive BaseType where
  | tensor
  | generator
  | quantizer
  /-- Integers, and all that is nothing but one: formats, layouts, indices of devices. -/
  | int
  /-- The type of a tensor's elements, which counts as an integer but has names. -/
  | elementType
  | float
  | complex
  | bool
  | str
  /-- A number of any kind. -/
  | scalar
  | device
  | absent
  /-- Values of any type. -/
  | any
  | symbolicBool
  | storage
  | quantizationScheme
  | stream
  | capsule
  | anyObject
  | anyEnum
  /-- Objects of a registered class. -/
  | object (name : String)
  /-- A type variable. One is as good as another. -/
  | generic
  deriving DecidableEq

/-- The ways to build a type that is neither optional nor a list. -/
inductive TypeFormer where
  | tuple
  | dictionary
  | union
  | future
  | awaited
  | remote
  deriving DecidableEq

/-- The type of a parameter or result. -/
inductive ValueType where
  | base (type : BaseType)
  | optional (type : ValueType)
  | list (type : ValueType)
  | compound (former : TypeFormer) (types : List ValueType)

namespace ValueType

/-! ### Equality -/

mutual

/-- Equality of types is decided part by part. -/
def decideEq : (first second : ValueType) → Decidable (first = second)
  | .base first, .base second => decidable_of_iff (first = second) (by simp)
  | .optional first, .optional second =>
    have := decideEq first second
    decidable_of_iff (first = second) (by simp)
  | .list first, .list second =>
    have := decideEq first second
    decidable_of_iff (first = second) (by simp)
  | .compound former types, .compound former' types' =>
    have := decideListEq types types'
    decidable_of_iff (former = former' ∧ types = types') (by simp)
  | .base _, .optional _ | .base _, .list _ | .base _, .compound _ _
  | .optional _, .base _ | .optional _, .list _ | .optional _, .compound _ _
  | .list _, .base _ | .list _, .optional _ | .list _, .compound _ _
  | .compound _ _, .base _ | .compound _ _, .optional _ | .compound _ _, .list _ =>
    isFalse (by simp)

/-- Equality of lists of types. -/
def decideListEq : (first second : List ValueType) → Decidable (first = second)
  | [], [] => isTrue rfl
  | head :: rest, head' :: rest' =>
    have := decideEq head head'
    have := decideListEq rest rest'
    decidable_of_iff (head = head' ∧ rest = rest') (by simp)
  | [], _ :: _ | _ :: _, [] => isFalse (by simp)

end

instance : DecidableEq ValueType := decideEq

/-! ### Parts -/

/-- The outermost suffix makes the type optional. -/
def isOptional : ValueType → Bool
  | .optional _ => true
  | _ => false

/-- The outermost suffix makes the type a list. -/
def isList : ValueType → Bool
  | .list _ => true
  | _ => false

/-- The type as other types contain it: there an element type is an integer. What is compound is
made of such types already. -/
def plain : ValueType → ValueType
  | .base .elementType => .base .int
  | .optional type => .optional type.plain
  | .list type => .list type.plain
  | type => type

/-- The type takes the names of element types: it is one, or optional around one. -/
def namesElements : ValueType → Bool
  | .base .elementType => true
  | .optional type => type.namesElements
  | _ => false

end ValueType

/-- A parameter of an operator. -/
structure Parameter where
  name : String
  type : ValueType
  deriving DecidableEq

/-- The kind, parameters and results of an operator. -/
structure Signature where
  kind : String
  parameters : List Parameter
  results : List ValueType
  deriving DecidableEq

end OperatorLowering
