/-
**One step of an LSTM cell.**

The gates' pre-activations are the sum of two products with transposed weights, each with an
optional bias. Their last dimension holds four gates of equal width side by side: input, forget,
cell and output gate, each sliced out and activated. The cell update is multiplicative:

    cy = (forget * c) * (input * cell)        hy = output * tanh cy

The second output of the node is bound to `cy` as soon as that exists, the first one to `hy` at the
end.
-/

import OperatorLowering.Graph.Arithmetic
import OperatorLowering.Graph.Slice
import OperatorLowering.Lowering.Operands

namespace OperatorLowering

/-- The tensors that one step of a cell works on. -/
structure CellOperands where
  input : Handle
  state : RecurrentState
  inputWeights : Handle
  hiddenWeights : Handle
  inputBias : Option Handle := none
  hiddenBias : Option Handle := none

/-- The activated gates of one step. -/
structure GateTensors where
  input : Handle
  forget : Handle
  cell : Handle
  output : Handle

/-- The outputs of one step. -/
structure CellOutputs where
  hidden : Handle
  cell : Handle
  deriving DecidableEq

namespace Lower

/-- The width of one gate: a quarter of the last dimension, which must be known. -/
def gateWidth (gates : Handle) (node : OperatorNode) : Lower Int :=
  match gates.shape.getLast? with
  | some (.size width) =>
    if width % 4 = 0 then pure (width / 4) else violate node (.indivisibleGate width)
  | some (.symbol name) => violate node (.symbolicGate name)
  | none => throw (.outOfRange .dimensions)

/-- The gate at an index, sliced out of all gates and activated. -/
def gate (node : OperatorNode) (gates : Handle) (width : Int) (index : Nat) (kind : Activation) :
    Lower Handle := do
  let leading := gates.rank - 1
  let offsets := List.replicate leading (0 : Int) ++ [index * width]
  let sizes := gates.shape.dropLast ++ [.size width]
  let strides := List.replicate gates.rank (1 : Int)
  let chunk ← checked node "slice"
    (build (Build.slice gates (offsets.map some) (sizes.map .dim) (strides.map some)))
  checked node s!"{kind.stem} activation" (build (Build.activation chunk kind))

/-- The four gates. -/
def splitGates (node : OperatorNode) (gates : Handle) : Lower GateTensors := do
  let width ← gateWidth gates node
  let input ← gate node gates width 0 .sigmoid
  let forget ← gate node gates width 1 .sigmoid
  let cell ← gate node gates width 2 .tanh
  let output ← gate node gates width 3 .sigmoid
  return ⟨input, forget, cell, output⟩

/-- The elementwise product of two tensors on behalf of a node. -/
def product (node : OperatorNode) (a b : Handle) : Lower Handle :=
  checked node "elementwise product" (build (Build.elementwise a b .product))

/-- Half of the pre-activations: an operand times transposed weights, plus a bias if there
is one. -/
def weighted (node : OperatorNode) (operand weights : Handle) (bias : Option Handle)
    (biasName : String) : Lower Handle := do
  let gates ← checked node "matrix multiplication"
    (build (Build.matmul operand weights false true))
  match bias with
  | some bias => addBias gates bias biasName node
  | none => return gates

/-- Append one step of a cell and bind the outputs of the node. -/
def lstmCell (node : OperatorNode) (operands : CellOperands) : Lower CellOutputs := do
  let fromInput ← weighted node operands.input operands.inputWeights operands.inputBias "b_ih"
  let fromHidden ←
    weighted node operands.state.hidden operands.hiddenWeights operands.hiddenBias "b_hh"
  let all ← checked node "elementwise sum" (build (Build.elementwise fromInput fromHidden .sum))
  let gates ← splitGates node all
  let kept ← product node gates.forget operands.state.cell
  let entered ← product node gates.input gates.cell
  let updated ← product node kept entered
  let cell ← associate (← outputAt node 1) updated
  let squashed ← checked node "tanh activation" (build (Build.activation cell Activation.tanh))
  let exposed ← product node gates.output squashed
  let hidden ← associate (← outputAt node 0) exposed
  return ⟨hidden, cell⟩

/-- Resolve the six arguments of a cell in the order of its signature. -/
def cellOperands (node : OperatorNode) (arguments : List Argument) : Lower CellOperands := do
  let input ← resolveTensor (← argumentAt arguments 0) "input" node
  let state ← resolveState (← argumentAt arguments 1) "hx" node
  let inputWeights ← resolveTensor (← argumentAt arguments 2) "w_ih" node
  let hiddenWeights ← resolveTensor (← argumentAt arguments 3) "w_hh" node
  let inputBias ← resolveOptional (← argumentAt arguments 4) "b_ih" node
  let hiddenBias ← resolveOptional (← argumentAt arguments 5) "b_hh" node
  return { input, state, inputWeights, hiddenWeights, inputBias, hiddenBias }

/-- Convert an LSTM cell node. -/
def convertLstmCell (node : OperatorNode) (arguments : List Argument) : Lower Unit := do
  let operands ← cellOperands node arguments
  traceEvent (.cellShape .input operands.input.shape)
  traceEvent (.cellShape .inputWeights operands.inputWeights.shape)
  traceEvent (.cellShape .hiddenWeights operands.hiddenWeights.shape)
  traceEvent (.cellShape .hiddenState operands.state.hidden.shape)
  traceEvent (.cellShape .cellState operands.state.cell.shape)
  let outputs ← lstmCell node operands
  traceEvent (.cellShape .hiddenOutput outputs.hidden.shape)
  traceEvent (.cellShape .cellOutput outputs.cell.shape)

end Lower

end OperatorLowering
