/-
**Operator nodes and their arguments.**

A node of a traced program names the values it reads and defines. Its arguments arrive resolved: a
tensor of the graph, a boxed reference to one, a constant known beforehand, a list, an omitted
optional argument, or a value that is no argument at all.
-/

import OperatorLowering.Foreign
import OperatorLowering.Tensor.Basic
import OperatorLowering.Tensor.Literal

namespace OperatorLowering

/-- One operator of a traced program. -/
structure OperatorNode where
  name : String
  kind : String
  inputs : List String
  outputs : List String
  deriving DecidableEq

namespace OperatorNode

/-- Value names as a list, each behind a percent sign. -/
def valueList (values : List String) : String :=
  String.intercalate ", " (values.map ("%" ++ ·))

/-- The written form of a node, `name: %y = kind(%a, %b)`. -/
def text (node : OperatorNode) : String :=
  s!"{node.name}: {valueList node.outputs} = {node.kind}({valueList node.inputs})"

end OperatorNode

/-- A resolved argument of an operator. -/
inductive Argument where
  | tensor (tensor : Handle)
  /-- A boxed reference to a tensor of the graph, such as state carried over from a step before. -/
  | boxed (tensor : Handle)
  /-- A tensor known beforehand, embedded in the graph when it is used. -/
  | constant (value : Literal)
  | list (items : List Argument)
  /-- An optional argument left out. -/
  | absent
  | foreign (value : Foreign)

namespace Argument

/-- The argument was left out. -/
def isAbsent : Argument → Bool
  | .absent => true
  | _ => false

/-- The argument is a list of tensors. -/
def isList : Argument → Bool
  | .list _ => true
  | _ => false

/-- The written form of an omitted argument. -/
def absentText : String := "ABSENT"

end Argument

end OperatorLowering
