/-
**Products, sums and activations.**

These primitives read their operands alone. Both operands of a product or a sum are owned and of one
element type. The product takes two stacks of matrices, either transposed first: the inner
dimensions after transposition are the same, and the batches broadcast. A transposed operand gets a
node of its own before the product, which then reads the transposed tensor.

An elementwise sum or product takes shapes that broadcast. An activation keeps the shape of its
operand; a request for an activation that is neither of the two known ones is refused with the value
that was asked for.
-/

import OperatorLowering.Graph.Build
import OperatorLowering.Shape.Basic

namespace OperatorLowering

/-! ### Products of matrices -/

/-- The factors of a product, already transposed, and the batch of the result. -/
structure ProductShape where
  first : MatrixShape
  second : MatrixShape
  batch : Shape

namespace ProductShape

/-- The shape of the product. -/
def toShape (product : ProductShape) : Shape :=
  product.batch ++ [product.first.rows, product.second.columns]

end ProductShape

/-- Factors with the same inner dimension and batches that broadcast. -/
def MatrixShape.product (first second : MatrixShape) : Except Fault ProductShape :=
  if first.columns ≠ second.rows then
    refuse (.matmulInner first.toShape second.toShape)
  else
    match first.batch.broadcast? second.batch with
    | some batch => .ok ⟨first, second, batch⟩
    | none => refuse (.matmulBatch first.toShape second.toShape)

/-- The factors of the product of two tensors of a graph. -/
def Graph.productShape (graph : Graph) (a b : Handle) (transposeA transposeB : Bool) :
    Except Fault ProductShape := do
  graph.requireOwned a
  graph.requireOwned b
  match MatrixShape.ofShape? a.shape, MatrixShape.ofShape? b.shape with
  | some first, some second =>
    if a.dtype ≠ b.dtype then refuse (.matmulTypes a.dtype b.dtype)
    else (first.transposeIf transposeA).product (second.transposeIf transposeB)
  | _, _ => refuse (.matmulRank a b)

/-- The order of axes that exchanges the last two. -/
def swapLastTwoAxes (rank : Nat) : List Nat :=
  List.range (rank - 2) ++ [rank - 1, rank - 2]

namespace Build

/-- The name of an operand of a product: the tensor itself, or its transpose in a node of
its own. -/
def factor (swap : Bool) (tensor : Handle) (matrix : MatrixShape) (layer operand : String) :
    Build String := do
  if swap then
    let output ← declareFresh s!"{layer}_{operand}_t" matrix.toShape tensor.dtype
    emit ⟨.transpose (swapLastTwoAxes tensor.rank), s!"{layer}_transpose_{operand}",
      [tensor.name], output.name⟩
    return output.name
  else
    return tensor.name

/-- Append the product of two stacks of matrices, either transposed first. -/
def matmul (a b : Handle) (transposeA transposeB : Bool := false) : Build Handle := do
  let product ← inspect fun graph => graph.productShape a b transposeA transposeB
  let layer ← freshName "matmul"
  let first ← factor transposeA a product.first layer "a"
  let second ← factor transposeB b product.second layer "b"
  append layer (.matmul transposeA transposeB) [a, b] [first, second] product.toShape a.dtype

end Build

/-! ### Elementwise combinations and activations -/

/-- The shape of the elementwise combination of two tensors of a graph. -/
def Graph.elementwiseShape (graph : Graph) (a b : Handle) (op : Elementwise) :
    Except Fault Shape := do
  graph.requireOwned a
  graph.requireOwned b
  if a.dtype ≠ b.dtype then
    refuse (.elementwiseTypes op a.dtype b.dtype)
  else
    match a.shape.broadcast? b.shape with
    | some shape => .ok shape
    | none => refuse (.elementwiseShapes op a.shape b.shape)

/-- An activation as a caller asks for it: a known one, or any other value. -/
inductive ActivationRequest where
  | known (kind : Activation)
  | other (value : Foreign)
  deriving DecidableEq

instance : Coe Activation ActivationRequest := ⟨.known⟩

/-- The activation asked for, of a tensor of a graph. -/
def Graph.activationKind (graph : Graph) (a : Handle) (request : ActivationRequest) :
    Except Fault Activation := do
  graph.requireOwned a
  match request with
  | .known kind => .ok kind
  | .other value => refuse (.unsupportedActivation value)

namespace Build

/-- Append the elementwise combination of two tensors. -/
def elementwise (a b : Handle) (op : Elementwise) : Build Handle := do
  let shape ← inspect fun graph => graph.elementwiseShape a b op
  let layer ← freshName op.stem
  append layer (.elementwise op) [a, b] [a.name, b.name] shape a.dtype

/-- Append the activation of a tensor. -/
def activation (a : Handle) (request : ActivationRequest) : Build Handle := do
  let kind ← inspect fun graph => graph.activationKind a request
  let layer ← freshName kind.stem
  append layer (.activation kind) [a] [a.name] a.shape a.dtype

end Build

end OperatorLowering
