/-
**The plan of a cell.**

One step of a cell follows a plan that its operands alone determine: two halves of pre-activations,
their sum, four gates, and the update. A half is a product with transposed weights and, if there is
a bias, its sum with the bias, which is reshaped first if its rank is lower.

* `CellOperands.plan`: the whole plan, wired by the places of its requests;
* `CellOperands.opening`: the plan up to the product of the forget gate and the old cell state, behind
  which nothing is refused;
* `Primitive.label`: how a refused layer is named in the node's failure.
-/

import OperatorLowering.Lowering.LstmCell
import OperatorLowering.Proofs.Graph.Plan

namespace OperatorLowering

/-- How a refused layer is named in the failure of its node. -/
def Primitive.label : Primitive → String
  | .matmul .. => "matrix multiplication"
  | .elementwise .sum => "elementwise sum"
  | .elementwise .product => "elementwise product"
  | .slice .. => "slice"
  | .activation kind => s!"{kind.stem} activation"
  | .reshape _ => "reshape"

namespace Shape

/-- A quarter of the last dimension, where that is known. -/
def quarter (shape : Shape) : Int :=
  match shape.getLast? with
  | some (.size width) => width / 4
  | _ => 0

/-- The gate at an index: the quarter of the last dimension that begins there. -/
def gateRequest {Operand : Type} (shape : Shape) (gates : Operand) (index : Nat) :
    Request Operand :=
  .slice gates (List.replicate (shape.length - 1) 0 ++ [index * shape.quarter])
    (shape.dropLast ++ [.size shape.quarter]) (List.replicate shape.length 1)

end Shape

/-- The sum of what a wire leads to, of rank `rank`, and a bias; the bias is reshaped at `place` if
its rank is lower. -/
def Wire.withBias (product : Wire) (place : Nat) (bias : Handle) (rank : Nat) :
    List (Request Wire) :=
  if bias.rank < rank then
    [.reshape (.tensor bias) (bias.shape.padTo rank), .elementwise product (.layer place) .sum]
  else [.elementwise product (.tensor bias) .sum]

namespace Wire

/-- A sum with a bias asks for the sum, and for nothing else but a reshape of the bias. -/
theorem cases_of_mem_withBias {product : Wire} {place rank : Nat} {bias : Handle}
    {request : Request Wire} (member : request ∈ product.withBias place bias rank) :
    request = .reshape (.tensor bias) (bias.shape.padTo rank) ∨
      ∃ addend, request = .elementwise product addend .sum ∧
        (addend = .layer place ∨ addend = .tensor bias) := by
  unfold withBias at member
  split at member
  · rcases List.mem_pair.mp member with rfl | rfl
    · exact Or.inl rfl
    · exact Or.inr ⟨_, rfl, Or.inl rfl⟩
  · exact Or.inr ⟨_, List.mem_singleton.mp member, Or.inr rfl⟩

/-- The tensors of a sum with a bias are these two. -/
theorem mem_withBias {product : Wire} {place rank : Nat} {bias handle : Handle}
    {request : Request Wire} (member : request ∈ product.withBias place bias rank)
    (wired : .tensor handle ∈ request.operands) : product = .tensor handle ∨ handle = bias := by
  rcases cases_of_mem_withBias member with rfl | ⟨addend, rfl, rfl | rfl⟩
  · exact Or.inr (by simpa [Request.operands] using wired)
  · exact Or.inl (by simpa [Request.operands, eq_comm] using wired)
  · simpa [Request.operands, eq_comm] using wired

section Reads

variable {Value : Type} {base : Handle → Value} {made : List Value} {product : Wire} {value : Value}

/-- The sum with a bias that was reshaped last. -/
theorem traverse_sum_last (leads : product.read base made = some value) (padded : Value) :
    (Request.elementwise product (.layer made.length) .sum).traverse
      (Wire.read base (made ++ [padded])) = some (.elementwise value padded .sum) := by
  simp only [Request.traverse, read_last, read_append leads [padded]]
  rfl

/-- The sum with a bias as it is. -/
theorem traverse_sum (leads : product.read base made = some value) (bias : Handle) :
    (Request.elementwise product (.tensor bias) .sum).traverse (Wire.read base made) =
      some (.elementwise value (base bias) .sum) := by
  simp only [Request.traverse, leads]
  rfl

end Reads

/-- The first request for a bias reads it. -/
theorem withBias_eq_cons (product : Wire) (place : Nat) (bias : Handle) (rank : Nat) :
    ∃ request rest, product.withBias place bias rank = request :: rest ∧
      .tensor bias ∈ request.operands := by
  unfold withBias
  split
  · exact ⟨_, _, rfl, List.mem_singleton_self _⟩
  · exact ⟨_, _, rfl, List.mem_cons_of_mem _ (List.mem_singleton_self _)⟩

end Wire

namespace CellOperands

/-- Half of the pre-activations, the first of its requests at place `index`. -/
def half (operand weights : Handle) (bias : Option Handle) (index : Nat) : List (Request Wire) :=
  .matmul (.tensor operand) (.tensor weights) false true ::
    match bias with
    | none => []
    | some bias => (Wire.layer index).withBias (index + 1) bias (max operand.rank weights.rank)

/-- The four gates, out of pre-activations of this shape at place `index`. -/
def gates (shape : Shape) (index : Nat) : List (Request Wire) :=
  [shape.gateRequest (.layer index) 0, .activation (.layer (index + 1)) .sigmoid,
    shape.gateRequest (.layer index) 1, .activation (.layer (index + 3)) .sigmoid,
    shape.gateRequest (.layer index) 2, .activation (.layer (index + 5)) .tanh,
    shape.gateRequest (.layer index) 3, .activation (.layer (index + 7)) .sigmoid]

/-- What is kept of the cell state, for pre-activations at place `index`. -/
def kept (cell : Handle) (index : Nat) : Request Wire :=
  .elementwise (.layer (index + 4)) (.tensor cell) .product

/-- What enters the cell state, and the new cell state. -/
def entering (index : Nat) : List (Request Wire) :=
  [.elementwise (.layer (index + 2)) (.layer (index + 6)) .product,
    .elementwise (.layer (index + 9)) (.layer (index + 10)) .product]

/-- The activation of the new cell state, and what the output gate lets through. -/
def exposing (index : Nat) : List (Request Wire) :=
  [.activation (.layer (index + 11)) .tanh,
    .elementwise (.layer (index + 8)) (.layer (index + 12)) .product]

/-- The type of half of the pre-activations. -/
def halfType? (operand weights : Handle) : Option TensorType :=
  (Request.matmul operand.type weights.type false true).type?

variable (operands : CellOperands)

/-- The half that comes from the input. -/
def inputHalf : List (Request Wire) :=
  half operands.input operands.inputWeights operands.inputBias 0

/-- The half that comes from the hidden state. -/
def hiddenHalf : List (Request Wire) :=
  half operands.state.hidden operands.hiddenWeights operands.hiddenBias operands.inputHalf.length

/-- The place of the pre-activations. -/
def gatesIndex : Nat :=
  operands.inputHalf.length + operands.hiddenHalf.length

/-- The type of the pre-activations. -/
def gatesType? : Option TensorType := do
  let fromInput ← halfType? operands.input operands.inputWeights
  let fromHidden ← halfType? operands.state.hidden operands.hiddenWeights
  (Request.elementwise fromInput fromHidden .sum).type?

/-- The shape of the pre-activations. -/
def gatesShape : Shape :=
  (operands.gatesType?.map TensorType.shape).getD []

/-- The sum of the two halves. -/
def total : Request Wire :=
  .elementwise (.layer (operands.inputHalf.length - 1)) (.layer (operands.gatesIndex - 1)) .sum

/-- The plan up to the gates. -/
def front : List (Request Wire) :=
  operands.inputHalf ++ operands.hiddenHalf ++ [operands.total] ++
    gates operands.gatesShape operands.gatesIndex

/-- The plan up to what is kept of the cell state. -/
def opening : List (Request Wire) :=
  operands.front ++ [kept operands.state.cell operands.gatesIndex]

/-- **The plan** of one step. -/
def plan : List (Request Wire) :=
  operands.opening ++ entering operands.gatesIndex ++ exposing operands.gatesIndex

/-- The gates end right in front of what is kept. -/
theorem length_front : operands.front.length = operands.gatesIndex + 9 := by
  simp only [front, gates, gatesIndex, List.length_append, List.length_cons, List.length_nil]

/-! ### Reading the plan -/

section Reading

variable {Value : Type} {made rest : List Value} (base : Handle → Value)

/-- A gate reads the pre-activations. -/
theorem traverse_gateRequest (shape : Shape) (index : Nat) (all : Value) :
    (shape.gateRequest (.layer made.length) index).traverse (Wire.read base (made ++ all :: rest)) =
      some (shape.gateRequest all index) := by
  have found := Wire.read_offset base made (all :: rest) 0
  rw [Nat.add_zero] at found
  simp only [Shape.gateRequest, Request.traverse, found]
  rfl

/-- The activation of a gate reads the gate right in front of it. -/
theorem traverse_gateActivation (all chunk : Value) (kind : Activation) :
    (Request.activation (.layer (made.length + (rest.length + 1))) kind).traverse
      (Wire.read base (made ++ all :: rest ++ [chunk])) = some (.activation chunk kind) := by
  have last : (all :: rest ++ [chunk])[rest.length + 1]? = some chunk :=
    List.getElem?_concat_length
  rw [List.append_assoc]
  exact Request.traverse_layer base _ kind last

/-- What is kept of the cell state reads the forget gate. -/
theorem traverse_kept {forget : Value} (cell : Handle) (read : rest[4]? = some forget) :
    (kept cell made.length).traverse (Wire.read base (made ++ rest)) =
      some (.elementwise forget (base cell) .product) := by
  simp only [kept, Request.traverse, Wire.read_offset, read]
  rfl

/-- The sum reads the last results of the two halves. -/
theorem traverse_total {before between : List Value} {fromInput fromHidden : Value}
    (inputCount : (before ++ [fromInput]).length = operands.inputHalf.length)
    (bothCount : (before ++ [fromInput] ++ between ++ [fromHidden]).length =
      operands.gatesIndex) :
    operands.total.traverse
      (Wire.read base (before ++ [fromInput] ++ between ++ [fromHidden])) =
        some (.elementwise fromInput fromHidden .sum) := by
  have readInput : Wire.read base (before ++ [fromInput] ++ between ++ [fromHidden])
      (.layer (operands.inputHalf.length - 1)) = some fromInput := by
    rw [← inputCount, List.length_append, List.length_singleton, Nat.add_sub_cancel,
      List.append_assoc, List.append_assoc]
    exact Wire.read_offset base before ([fromInput] ++ (between ++ [fromHidden])) 0
  have readHidden : Wire.read base (before ++ [fromInput] ++ between ++ [fromHidden])
      (.layer (operands.gatesIndex - 1)) = some fromHidden := by
    rw [← bothCount, List.length_append, List.length_singleton, Nat.add_sub_cancel]
    exact Wire.read_offset base (before ++ [fromInput] ++ between) [fromHidden] 0
  simp only [total, Request.traverse, readInput, readHidden]
  rfl

end Reading

/-! ### Requests in the plan -/

/-- A half asks for a product of matrices, and for the sum with a bias. -/
theorem cases_of_mem_half {operand weights : Handle} {bias : Option Handle} {index : Nat}
    {request : Request Wire} (member : request ∈ half operand weights bias index) :
    request = .matmul (.tensor operand) (.tensor weights) false true ∨
      ∃ given ∈ bias.toList, request ∈
        (Wire.layer index).withBias (index + 1) given (max operand.rank weights.rank) := by
  refine (List.mem_cons.mp member).imp_right fun summed => ?_
  cases bias with
  | none => cases summed
  | some bias => exact ⟨bias, List.mem_singleton_self bias, summed⟩

/-- The gates ask for slices and activations of layers. -/
theorem cases_of_mem_gates {shape : Shape} {place : Nat} {request : Request Wire}
    (member : request ∈ gates shape place) :
    (∃ index, index < 4 ∧ request = shape.gateRequest (.layer place) index) ∨
      ∃ chunk kind, request = .activation (.layer chunk) kind := by
  simp only [gates, List.mem_cons, List.not_mem_nil, or_false] at member
  rcases member with rfl | rfl | rfl | rfl | rfl | rfl | rfl | rfl
  · exact Or.inl ⟨0, by decide, rfl⟩
  · exact Or.inr ⟨_, _, rfl⟩
  · exact Or.inl ⟨1, by decide, rfl⟩
  · exact Or.inr ⟨_, _, rfl⟩
  · exact Or.inl ⟨2, by decide, rfl⟩
  · exact Or.inr ⟨_, _, rfl⟩
  · exact Or.inl ⟨3, by decide, rfl⟩
  · exact Or.inr ⟨_, _, rfl⟩

/-- A half has no product of two tensors. -/
theorem primitive_of_mem_half {operand weights : Handle} {bias : Option Handle} {index : Nat}
    {request : Request Wire} (member : request ∈ half operand weights bias index) :
    request.primitive ≠ .elementwise .product := by
  rcases cases_of_mem_half member with rfl | ⟨_, _, summed⟩
  · simp [Request.primitive]
  · rcases Wire.cases_of_mem_withBias summed with rfl | ⟨_, rfl, _⟩ <;> simp [Request.primitive]

/-- **No product of two tensors** is planned before what is kept of the cell state. -/
theorem primitive_of_mem_front {request : Request Wire} (member : request ∈ operands.front) :
    request.primitive ≠ .elementwise .product := by
  simp only [front, List.mem_append, List.mem_singleton] at member
  rcases member with ((input | hidden) | rfl) | gate
  · exact primitive_of_mem_half input
  · exact primitive_of_mem_half hidden
  · simp [total, Request.primitive]
  · rcases cases_of_mem_gates gate with ⟨_, _, rfl⟩ | ⟨_, _, rfl⟩ <;>
      simp [Shape.gateRequest, Request.primitive]

end CellOperands

end OperatorLowering
