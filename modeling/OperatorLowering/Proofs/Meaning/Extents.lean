/-
**The shape rules of the backend.**

Before a backend computes anything it infers the dimensions of every tensor: from the dimensions of
the operands and, for slices and reshapes, from the integers of their constants. An operator whose
operands do not fit has no inferred dimensions, and the backend rejects the model.

* `NodeOp.dims?`: the shape rule of every operator;
* `Node.WellShaped`: the rule of a node gives the declared shape of its output.
-/

import OperatorLowering.Proofs.Meaning.Broadcast
import OperatorLowering.Proofs.Meaning.Evaluation

namespace OperatorLowering

/-- What a shape rule knows about an operand: its dimensions and, for an index constant, its
integers. -/
structure Extent where
  dims : List Nat
  values : Option (List Int) := none

/-! ### Rules for dimensions -/

/-- Axis `i` of the result is axis `perm[i]` of the operand. -/
def transposeDims? (perm dims : List Nat) : Option (List Nat) :=
  if perm.isPerm (List.range dims.length) then some (perm.map fun axis => dims.getD axis 0) else none

/-- Stacks of matrices multiply along the inner dimension, and the leading axes broadcast. -/
def matmulDims? (first second : List Nat) : Option (List Nat) :=
  match first.reverse, second.reverse with
  | inner :: rows :: batch, columns :: inner' :: batch' =>
    if inner = inner' then
      (broadcastDims? batch.reverse batch'.reverse).map (· ++ [rows, columns])
    else none
  | _, _ => none

/-- A slice has as many entries along an axis as it reads positions there. -/
def sliceDims? (starts stops axes steps : List Int) (dims : List Nat) : Option (List Nat) :=
  (Tensor.slicePositions? starts stops axes steps dims).map fun positions =>
    positions.map List.length

/-- **The shape rules**: the dimensions that an operator gives for operands of these extents. -/
def NodeOp.dims? : NodeOp → List Extent → Option (List Nat)
  | .matMul, [a, b] => matmulDims? a.dims b.dims
  | .add, [a, b] => broadcastDims? a.dims b.dims
  | .mul, [a, b] => broadcastDims? a.dims b.dims
  | .slice, [a, starts, stops, axes, steps] => do
    sliceDims? (← starts.values) (← stops.values) (← axes.values) (← steps.values) a.dims
  | .reshape, [a, target] => do Tensor.targetDims? a.dims (← target.values)
  | .sigmoid, [a] => some a.dims
  | .tanh, [a] => some a.dims
  | .transpose perm, [a] => transposeDims? perm a.dims
  | _, _ => none

/-! ### Declared shapes -/

/-- The integers of the index constant under a name. -/
def Graph.indices? (graph : Graph) (name : String) : Option (List Int) :=
  match graph.constants.find? fun constant => constant.name = name with
  | some ⟨_, .indices values⟩ => some values
  | _ => none

/-- **The extent that a graph declares** for a name, once symbols have sizes. -/
def Graph.extent? (graph : Graph) (sizes : String → Nat) (name : String) : Option Extent :=
  (graph.tensors.get? name).map fun tensor => ⟨tensor.shape.under sizes, graph.indices? name⟩

/-- **A well-shaped node**: its shape rule, for what the graph declares of its operands, gives what
the graph declares of its output. -/
def Node.WellShaped (graph : Graph) (sizes : String → Nat) (node : Node) : Prop :=
  ∃ operands output, node.inputs.mapM (graph.extent? sizes) = some operands ∧
    graph.tensors.get? node.output = some output ∧
      node.op.dims? operands = some (output.shape.under sizes)

namespace Graph

variable {graph : Graph} {sizes : String → Nat}

/-- The extent of a tensor that the graph owns. -/
theorem extent?_of_owns {tensor : Handle} (owned : graph.owns tensor = true) :
    ∃ values, graph.extent? sizes tensor.name = some ⟨tensor.shape.under sizes, values⟩ := by
  refine ⟨graph.indices? tensor.name, ?_⟩
  rw [extent?, (owns_iff graph tensor).mp owned]
  rfl

/-- The constant of a name is found if no two constants share it. -/
theorem indices?_of_mem {name : String} {values : List Int}
    (distinct : (graph.constants.map Constant.name).Nodup)
    (member : ⟨name, .indices values⟩ ∈ graph.constants) : graph.indices? name = some values := by
  have found : graph.constants.find? (fun constant => constant.name = name) =
      some ⟨name, .indices values⟩ := by
    generalize graph.constants = constants at distinct member
    induction constants with
    | nil => cases member
    | cons first rest ih =>
        rw [List.map_cons, List.nodup_cons] at distinct
        rcases List.mem_cons.mp member with rfl | later
        · exact List.find?_cons_of_pos (decide_eq_true rfl)
        · have different : first.name ≠ name := by
            rintro rfl
            exact distinct.1 (List.mem_map.mpr ⟨_, later, rfl⟩)
          rw [List.find?_cons_of_neg (by simpa using different)]
          exact ih distinct.2 later
  rw [indices?, found]

end Graph

end OperatorLowering
