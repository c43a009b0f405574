/-
**The step of a cell, written down.**

One step of a cell on matrices: each half of the pre-activations multiplies rows of an operand with
rows of the weights and adds the bias, if there is one; the four gates are read side by side out of
the sum. The cell update is multiplicative, as in the lowering. Nothing is assumed of the elements,
so the order of all operations is part of what is said here.

* `Reference.cell`, `Reference.hidden`: the new cell state and the new hidden state;
* `CellOperands.Shaped`: operands of one element type with the shapes of a cell.
-/

import OperatorLowering.Lowering.LstmCell
import OperatorLowering.Proofs.Graph.Request
import OperatorLowering.Proofs.Meaning.Tensor

namespace OperatorLowering

namespace Reference

variable {Element : Type} (arithmetic : Arithmetic Element) (values : Handle → Tensor Element)

/-- Half of the pre-activations, from an operand with `width` columns. A bias is read at its last
axes, and at zero where its size is one. -/
def half (width : Nat) (operand weights : Handle) (bias : Option Handle) (row column : Nat) :
    Element :=
  let product := arithmetic.sum width fun position =>
    arithmetic.mul ((values operand).entry [row, position]) ((values weights).entry [column, position])
  match bias with
  | none => product
  | some bias =>
    arithmetic.add product ((values bias).entry (Index.broadcast (values bias).dims [row, column]))

variable (operands : CellOperands) (inputs units : Nat)

/-- The pre-activations: four gates of `units` columns. -/
def gates (row column : Nat) : Element :=
  arithmetic.add
    (half arithmetic values inputs operands.input operands.inputWeights operands.inputBias row column)
    (half arithmetic values units operands.state.hidden operands.hiddenWeights operands.hiddenBias
      row column)

/-- The pre-activation of one gate: the input, forget, cell and output gates are numbered from 0. -/
def gate (index row column : Nat) : Element :=
  gates arithmetic values operands inputs units row (index * units + column)

/-- **The new cell state.** -/
def cell (row column : Nat) : Element :=
  arithmetic.mul
    (arithmetic.mul (arithmetic.sigmoid (gate arithmetic values operands inputs units 1 row column))
      ((values operands.state.cell).entry [row, column]))
    (arithmetic.mul (arithmetic.sigmoid (gate arithmetic values operands inputs units 0 row column))
      (arithmetic.tanh (gate arithmetic values operands inputs units 2 row column)))

/-- **The new hidden state.** -/
def hidden (row column : Nat) : Element :=
  arithmetic.mul (arithmetic.sigmoid (gate arithmetic values operands inputs units 3 row column))
    (arithmetic.tanh (cell arithmetic values operands inputs units row column))

end Reference

/-- A bias, if there is one, has the element type of its product and broadcasts to it. -/
def Handle.Biases (product : TensorType) (bias : Option Handle) : Prop :=
  ∀ given, bias = some given →
    given.dtype = product.dtype ∧ product.shape.absorbs given.shape = true

/-- The operands of one step have the shapes of a cell of `units` units on `inputs` inputs, for some
batch. -/
structure CellOperands.Shaped (operands : CellOperands) (batch : Dim) (inputs units : Nat)
    (dtype : ElementType) : Prop where
  input : operands.input.type = ⟨[batch, .size inputs], dtype⟩
  hidden : operands.state.hidden.type = ⟨[batch, .size units], dtype⟩
  cell : operands.state.cell.type = ⟨[batch, .size units], dtype⟩
  inputWeights : operands.inputWeights.type = ⟨[.size (4 * units : Nat), .size inputs], dtype⟩
  hiddenWeights : operands.hiddenWeights.type = ⟨[.size (4 * units : Nat), .size units], dtype⟩
  inputBias : Handle.Biases ⟨[batch, .size (4 * units : Nat)], dtype⟩ operands.inputBias
  hiddenBias : Handle.Biases ⟨[batch, .size (4 * units : Nat)], dtype⟩ operands.hiddenBias

end OperatorLowering
