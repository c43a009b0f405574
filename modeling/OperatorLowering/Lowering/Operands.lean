/-
**Operands of a node.**

A tensor argument is a tensor of the graph, boxed or not, or a constant that is embedded when it is
resolved. A recurrent state is a list of exactly two such arguments.

An operand that broadcasts to a tensor of higher rank is reshaped to that rank with leading ones, so
that the elementwise node after it combines equal ranks. Of equal ranks nothing needs to be done.

* `Lower.resolveTensor`, `Lower.resolveOptional`, `Lower.resolveState`: the tensors of an argument;
* `Lower.reconcile`: an operand, reshaped if its rank is lower;
* `Lower.addBias`: the sum of a tensor and a bias that broadcasts to it.
-/

import OperatorLowering.Graph.Arithmetic
import OperatorLowering.Graph.Reshape
import OperatorLowering.Lowering.Context

namespace OperatorLowering

/-- The state that a recurrent cell carries from step to step. -/
structure RecurrentState where
  hidden : Handle
  cell : Handle
  deriving DecidableEq

namespace Lower

/-- The tensor of a required argument called `name`. -/
def resolveTensor (argument : Argument) (name : String) (node : OperatorNode) : Lower Handle :=
  match argument with
  | .tensor tensor => pure tensor
  | .constant value => freeze value node
  | .boxed tensor => pure tensor
  | .absent => violate node (.absentTensor name)
  | .list items => violate node (.listForTensor name items.length)
  | .foreign value => violate node (.foreignArgument name value.typeName)

/-- The tensor of an optional argument called `name`, if it is there. -/
def resolveOptional (argument : Argument) (name : String) (node : OperatorNode) :
    Lower (Option Handle) :=
  match argument with
  | .absent => pure none
  | _ => some <$> resolveTensor argument name node

/-- The recurrent state of a list argument called `name`. -/
def resolveState (argument : Argument) (name : String) (node : OperatorNode) :
    Lower RecurrentState :=
  match argument with
  | .list [hidden, cell] => do
    let hidden ← resolveTensor hidden s!"{name}[0]" node
    let cell ← resolveTensor cell s!"{name}[1]" node
    return ⟨hidden, cell⟩
  | .list items => violate node (.stateLength name items.length)
  | _ => violate node (.stateNotList name)

/-- The argument at a position. -/
def argumentAt (arguments : List Argument) (position : Nat) : Lower Argument :=
  match arguments[position]? with
  | some argument => pure argument
  | none => throw (.outOfRange .arguments)

/-- The name of a node's output at a position. -/
def outputAt (node : OperatorNode) (position : Nat) : Lower String :=
  match node.outputs[position]? with
  | some value => pure value
  | none => throw (.outOfRange .outputs)

/-- The operand `secondary`, called `name`, in a shape that combines with `primary`. -/
def reconcile (primary secondary : Handle) (name : String := "secondary") : Lower Handle := do
  if primary.shape = secondary.shape then
    return secondary
  else if primary.shape.absorbs secondary.shape = false then
    throw (.conversion ⟨.shape name primary.shape secondary.shape, none⟩)
  else if secondary.rank = primary.rank then
    return secondary
  else
    traceEvent (.reshaped name)
    build (Build.reshape secondary (secondary.shape.padTo primary.rank))

/-- The sum of `a` and a bias `b`, called `name`, on behalf of a node. -/
def addBias (a b : Handle) (name : String) (node : OperatorNode) : Lower Handle := do
  traceEvent (.biasShape name b.shape)
  if a.shape.absorbs b.shape = false then
    fail node (.shape name a.shape b.shape)
  else
    let b ←
      if a.shape = b.shape then pure b else checked node "reshape" (reconcile a b name)
    checked node "elementwise sum" (build (Build.elementwise a b .sum))

end Lower

end OperatorLowering
