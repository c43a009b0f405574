/-
**Outputs that are the next state.**

Both outputs of a cell have one shape, which is what a gate combines to with the old cell state. No
check compares it with the state: it is the shape of the state exactly if both states have one shape
and that absorbs the shape of a gate, as it does for operands of the right shapes. Then the outputs
can be fed back, for any number of steps.

* `CellOperands.Admits.gateShape`: the shape of the outputs;
* `CellOperands.Admits.fedBack`: the operands of the next step meet the condition of this one;
* `Lower.unroll_returns`: any number of steps;
* `lstmCell_keeps_state_shapes`: when outputs have the shapes of the state.
-/

import OperatorLowering.Proofs.Cell.Acceptance
import OperatorLowering.Proofs.Lowering.Reachable

namespace OperatorLowering

namespace CellOperands

/-- The shape of one gate: that of the pre-activations with a quarter of their last dimension. -/
def gateShape (operands : CellOperands) : Shape :=
  operands.gatesShape.dropLast ++ [.size operands.gatesShape.quarter]

/-- The operands of the next step, on the outputs of this one. -/
def fedBack (operands : CellOperands) (outputs : CellOutputs) : CellOperands :=
  { operands with state := ⟨outputs.hidden, outputs.cell⟩ }

variable {operands : CellOperands} {type : TensorType} {outputs : CellOutputs}

/-- **The shape of the outputs** is what a gate combines to with the old cell state. -/
theorem Admits.gateShape (admits : operands.Admits type) :
    operands.gateShape.broadcast? operands.state.cell.shape = some type.shape ∧
      ∃ lead width, operands.gatesShape = lead ++ [.size (4 * width)] ∧
        operands.gateShape = lead ++ [.size width] := by
  obtain ⟨_, fromInput, fromHidden, total, lead, width, carries⟩ := admits_iff.mp admits
  have isTotal : operands.gatesShape = total.shape := carries.typed.gatesShape
  have isGate : operands.gateShape = total.gate.shape := by
    rw [CellOperands.gateShape, isTotal]
    rfl
  obtain ⟨_, combined, _⟩ := Request.type?_elementwise.mp carries.kept
  refine ⟨isGate ▸ combined, lead, width, isTotal.trans carries.split, ?_⟩
  rw [isGate, gate_eq carries.split]

/-- A gate of a cell of the right shapes has as many columns as there are units. -/
theorem Shaped.gateShape {batch : Dim} {inputs units : Nat} {dtype : ElementType}
    (shaped : operands.Shaped batch inputs units dtype) :
    operands.gateShape = [batch, .size units] := by
  have all : operands.gatesShape = [batch, .size (4 * units : Nat)] := by
    rw [gatesShape, gatesType?_shaped shaped]
    rfl
  have width : ((4 * units : Nat) : Int) / 4 = units := by omega
  rw [CellOperands.gateShape, all]
  exact congrArg (fun width => [batch, .size width]) width

/-- A half is had from every operand of one shape. -/
theorem HalfAdmits.of_shape {operand other weights : Handle} {bias : Option Handle} {half : Shape}
    (admits : HalfAdmits operand weights bias half) (same : other.shape = operand.shape) :
    HalfAdmits other weights bias half where
  product := by
    rw [same]
    exact admits.product
  absorbs := admits.absorbs
  pads := admits.pads

/-- **The operands of the next step** meet the condition if the outputs have the types of the
state. -/
theorem Admits.fedBack (admits : operands.Admits type) (isHidden : outputs.hidden.type = type)
    (isCell : outputs.cell.type = type) (hidden : operands.state.hidden.shape = type.shape)
    (cell : operands.state.cell.shape = type.shape) : (operands.fedBack outputs).Admits type := by
  have hiddenShape : outputs.hidden.shape = type.shape := congrArg TensorType.shape isHidden
  have cellShape : outputs.cell.shape = type.shape := congrArg TensorType.shape isCell
  obtain ⟨dtypes, fromInput, fromHidden, total, lead, width, input, fromState, sum, inRange, split,
    ranked, kept⟩ := admits
  obtain ⟨inputDtype, _, _, rest⟩ := dtypes_iff.mp dtypes
  refine ⟨dtypes_iff.mpr ⟨inputDtype, congrArg TensorType.dtype isHidden,
    congrArg TensorType.dtype isCell, rest⟩, fromInput, fromHidden, total, lead, width, input,
    fromState.of_shape (hiddenShape.trans hidden.symm), sum, inRange, split, ranked, ?_⟩
  rw [cell] at kept
  show Shape.broadcast? _ outputs.cell.shape = _
  rw [cellShape, kept]

/-- Operands that meet the condition are lowered, to outputs of its type. -/
theorem Admits.lowered (admits : operands.Admits type) {node : OperatorNode} {start : Context}
    (owned : ∀ tensor ∈ operands.tensors, start.graph.owns tensor = true)
    (named : 2 ≤ node.outputs.length) :
    ∃ result after made, Lower.lstmCell node operands start = .ok result after ∧
      Completed node operands start result made after ∧
      result.hidden.type = type ∧ result.cell.type = type := by
  obtain ⟨fit, fromInput, fromHidden, total, lead, width, carries⟩ := admits_iff.mp admits
  have passed := (pass_plan Request.agrees_type? fit).mpr
    ⟨fromInput, fromHidden, total, lead, width, type, carries, rfl⟩
  obtain ⟨result, after, made, run, completed⟩ := lstmCell_completes fit owned passed named
  exact ⟨result, after, made, run, completed, completed.types admits⟩

/-- A half reads its operand, its weights and its bias. -/
theorem half_reads {operand weights tensor : Handle} {bias : Option Handle} (index : Nat)
    (listed : tensor = operand ∨ tensor = weights ∨ bias = some tensor) :
    ∃ request ∈ half operand weights bias index, .tensor tensor ∈ request.operands := by
  have product : Request.matmul (.tensor operand) (.tensor weights) false true ∈
      half operand weights bias index := List.mem_cons_self
  rcases listed with rfl | rfl | rfl
  · exact ⟨_, product, by simp [Request.operands]⟩
  · exact ⟨_, product, by simp [Request.operands]⟩
  · obtain ⟨request, rest, first, reads⟩ := Wire.withBias_eq_cons (.layer index) (index + 1) tensor
      (max operand.rank weights.rank)
    refine ⟨request, List.mem_cons_of_mem _ ?_, reads⟩
    show request ∈ (Wire.layer index).withBias (index + 1) tensor (max operand.rank weights.rank)
    rw [first]
    exact List.mem_cons_self

/-- **The plan of a step** reads all of its tensors. -/
theorem plan_reads {tensor : Handle} (member : tensor ∈ operands.tensors) :
    ∃ request ∈ operands.plan, .tensor tensor ∈ request.operands := by
  have ofInput (listed : tensor = operands.input ∨ tensor = operands.inputWeights ∨
      operands.inputBias = some tensor) :
      ∃ request ∈ operands.plan, .tensor tensor ∈ request.operands := by
    obtain ⟨request, planned, wired⟩ := half_reads 0 listed
    exact ⟨request, by simp [plan, opening, front, inputHalf, planned], wired⟩
  have ofHidden (listed : tensor = operands.state.hidden ∨ tensor = operands.hiddenWeights ∨
      operands.hiddenBias = some tensor) :
      ∃ request ∈ operands.plan, .tensor tensor ∈ request.operands := by
    obtain ⟨request, planned, wired⟩ := half_reads operands.inputHalf.length listed
    exact ⟨request, by simp [plan, opening, front, hiddenHalf, planned], wired⟩
  simp only [tensors, List.mem_append, List.mem_cons, List.not_mem_nil, or_false,
    Option.mem_toList] at member
  rcases member with ((input | hidden | cell | weights | hiddenWeights) | bias) | hiddenBias
  · exact ofInput (Or.inl input)
  · exact ofHidden (Or.inl hidden)
  · exact ⟨kept operands.state.cell operands.gatesIndex, by simp [plan, opening],
      by simp [kept, Request.operands, cell]⟩
  · exact ofInput (Or.inr (Or.inl weights))
  · exact ofHidden (Or.inr (Or.inl hiddenWeights))
  · exact ofInput (Or.inr (Or.inr bias))
  · exact ofHidden (Or.inr (Or.inr hiddenBias))

end CellOperands

/-! ### Steps that follow each other -/

namespace Completed

variable {node : OperatorNode} {operands : CellOperands} {start after : Context}
  {result : CellOutputs} {outputs : List Handle}

/-- A completed step leaves a graph that owns the operands of the next one. -/
theorem owns_fedBack (completed : Completed node operands start result outputs after)
    {tensor : Handle} (member : tensor ∈ (operands.fedBack result).tensors) :
    after.graph.owns tensor = true := by
  have output {index : Nat} {tensor : Handle} (found : outputs[index]? = some tensor) :
      after.graph.owns tensor = true :=
    (completed.follows.enters (List.mem_of_getElem? found)).2
  have ours : tensor = result.hidden ∨ tensor = result.cell ∨ tensor ∈ operands.tensors := by
    simp only [CellOperands.tensors, CellOperands.fedBack, List.mem_append, List.mem_cons,
      List.not_mem_nil, or_false] at member ⊢
    tauto
  rcases ours with rfl | rfl | old
  · exact output completed.hidden
  · exact output completed.cell
  · obtain ⟨request, planned, wired⟩ := CellOperands.plan_reads old
    exact completed.follows.owns request planned tensor wired

end Completed

namespace Lower

/-- Steps of one cell, each on the outputs of the one before. -/
def unroll (operands : CellOperands) : List OperatorNode → Lower RecurrentState
  | [] => pure operands.state
  | node :: rest => do
    let outputs ← lstmCell node operands
    unroll (operands.fedBack outputs) rest

/-- **Any number of steps** of operands that meet the condition for the type of their own state:
every one of them is lowered, and the last state still has that type. -/
theorem unroll_returns {operands : CellOperands} {type : TensorType} {start : Context}
    (admits : operands.Admits type) (hidden : operands.state.hidden.type = type)
    (cell : operands.state.cell.type = type)
    (owned : ∀ tensor ∈ operands.tensors, start.graph.owns tensor = true)
    {nodes : List OperatorNode} (named : ∀ node ∈ nodes, 2 ≤ node.outputs.length) :
    ∃ state after, unroll operands nodes start = .ok state after ∧ state.hidden.type = type ∧
      state.cell.type = type := by
  induction nodes generalizing operands start with
  | nil => exact ⟨operands.state, start, rfl, hidden, cell⟩
  | cons node rest ih =>
      obtain ⟨result, after, made, run, completed, isHidden, isCell⟩ :=
        admits.lowered owned (named node List.mem_cons_self)
      obtain ⟨state, later, runs, isState⟩ := @ih (operands.fedBack result) after
        (admits.fedBack isHidden isCell (congrArg TensorType.shape hidden)
          (congrArg TensorType.shape cell)) isHidden isCell
        (fun tensor member => completed.owns_fedBack member)
        (fun other member => named other (List.mem_cons_of_mem node member))
      exact ⟨state, later, (bind_run_ok run).trans runs, isState⟩

end Lower

/-- **When the outputs of a cell have the shapes of its state.** Both outputs of a lowering have one
shape, what a gate combines to with the old cell state. These are the shapes of the state if and
only if the hidden state and the cell state have one shape and it absorbs the shape of a gate.
Operands with the shapes of a cell are of that kind. And if they are, steps on the outputs are
lowered in any number, and the state keeps its shapes. -/
theorem lstmCell_keeps_state_shapes (node : OperatorNode) (operands : CellOperands)
    (start after : Context) (result : CellOutputs)
    (run : Lower.lstmCell node operands start = .ok result after) :
    (∃ lead width shape, operands.gatesShape = lead ++ [.size (4 * width)] ∧
      operands.gateShape = lead ++ [.size width] ∧
      operands.gateShape.broadcast? operands.state.cell.shape = some shape ∧
      result.hidden.shape = shape ∧ result.cell.shape = shape) ∧
    (result.hidden.shape = operands.state.hidden.shape ∧
        result.cell.shape = operands.state.cell.shape ↔
      operands.state.hidden.shape = operands.state.cell.shape ∧
        operands.state.cell.shape.absorbs operands.gateShape = true) ∧
    (∀ batch inputs units dtype, operands.Shaped batch inputs units dtype →
      result.hidden.shape = operands.state.hidden.shape ∧
        result.cell.shape = operands.state.cell.shape) ∧
    (result.hidden.shape = operands.state.hidden.shape →
      result.cell.shape = operands.state.cell.shape →
        ∀ nodes : List OperatorNode, (∀ next ∈ nodes, 2 ≤ next.outputs.length) →
          ∃ state later, Lower.unroll (operands.fedBack result) nodes after = .ok state later ∧
            state.hidden.shape = operands.state.hidden.shape ∧
            state.cell.shape = operands.state.cell.shape) := by
  obtain ⟨outputs, completed⟩ := (Lower.lstmCell_ends node operands start).ok run
  obtain ⟨type, admits⟩ := completed.admits
  obtain ⟨isHidden, isCell⟩ := completed.types admits
  obtain ⟨combined, lead, width, split, gate⟩ := admits.gateShape
  have hiddenShape : result.hidden.shape = type.shape := congrArg TensorType.shape isHidden
  have cellShape : result.cell.shape = type.shape := congrArg TensorType.shape isCell
  have same : result.hidden.shape = operands.state.hidden.shape ∧
      result.cell.shape = operands.state.cell.shape ↔
        operands.state.hidden.shape = operands.state.cell.shape ∧
          operands.state.cell.shape.absorbs operands.gateShape = true := by
    rw [hiddenShape, cellShape, ← Shape.broadcast?_eq_right, combined, Option.some.injEq]
    constructor
    · rintro ⟨hidden, cell⟩
      exact ⟨hidden.symm.trans cell, cell⟩
    · rintro ⟨states, cell⟩
      exact ⟨cell.trans states.symm, cell⟩
  refine ⟨⟨lead, width, type.shape, split, gate, combined, hiddenShape, cellShape⟩, same, ?_, ?_⟩
  · intro batch inputs units dtype shaped
    have hidden : operands.state.hidden.shape = [batch, .size units] :=
      congrArg TensorType.shape shaped.hidden
    have cell : operands.state.cell.shape = [batch, .size units] :=
      congrArg TensorType.shape shaped.cell
    rw [same, hidden, cell, shaped.gateShape]
    exact ⟨rfl, Shape.absorbs_self _⟩
  · intro hidden cell nodes named
    obtain ⟨state, later, runs, lastHidden, lastCell⟩ := Lower.unroll_returns
      (admits.fedBack isHidden isCell (hidden.symm.trans hiddenShape) (cell.symm.trans cellShape))
      isHidden isCell (fun tensor member => completed.owns_fedBack member) named
    refine ⟨state, later, runs, ?_, ?_⟩
    · rw [← hidden, hiddenShape, ← lastHidden]
      rfl
    · rw [← cell, cellShape, ← lastCell]
      rfl

/-- The state of the small cell keeps its shapes over three steps. -/
theorem lstmCell_keeps_state_shapes_small :
    let node : OperatorNode := ⟨"cell", "aten::lstm_cell", [], ["hy", "cy"]⟩
    ∃ result after, Lower.lstmCell node .small
        ⟨.ofInputs CellOperands.small.tensors, .empty, [], []⟩ = .ok result after ∧
      result.hidden.shape = [.symbol "n", .size 1] ∧ result.cell.shape = [.symbol "n", .size 1] ∧
      ∃ state later, Lower.unroll (CellOperands.small.fedBack result) [node, node] after =
          .ok state later ∧
        state.hidden.shape = [.symbol "n", .size 1] ∧
        state.cell.shape = [.symbol "n", .size 1] := by
  intro node
  have returns : (match Lower.lstmCell node .small
      ⟨.ofInputs CellOperands.small.tensors, .empty, [], []⟩ with
    | .ok _ _ => true
    | .error _ _ => false) = true := by
    decide +kernel
  cases run : Lower.lstmCell node .small ⟨.ofInputs CellOperands.small.tensors, .empty, [], []⟩ with
  | error failure after =>
      rw [run] at returns
      cases returns
  | ok result after =>
      have shaped : CellOperands.small.Shaped (.symbol "n") 1 1 .float32 := by
        refine ⟨rfl, rfl, rfl, rfl, rfl, fun given present => ?_, nofun⟩
        cases present
        decide
      obtain ⟨_, _, keeps, feeds⟩ := lstmCell_keeps_state_shapes node .small _ after result run
      obtain ⟨hidden, cell⟩ := keeps _ _ _ _ shaped
      exact ⟨result, after, rfl, hidden, cell, feeds hidden cell [node, node] (by decide)⟩

/-- Two rows of input for a state of one row. -/
def CellOperands.widening : CellOperands where
  input := ⟨"x", [.size 2, .size 1], .float32⟩
  state := ⟨⟨"h", [.size 1, .size 1], .float32⟩, ⟨"c", [.size 1, .size 1], .float32⟩⟩
  inputWeights := ⟨"w", [.size 4, .size 1], .float32⟩
  hiddenWeights := ⟨"r", [.size 4, .size 1], .float32⟩

/-- A state of one row is lowered to outputs of two rows if the input has two. -/
theorem lstmCell_widens_state :
    let start : Context := ⟨.ofInputs CellOperands.widening.tensors, .empty, [], []⟩
    Graph.empty.Reaches start.graph ∧
      (∀ tensor ∈ CellOperands.widening.tensors, start.graph.owns tensor = true) ∧
      ∃ result after, Lower.lstmCell ⟨"cell", "aten::lstm_cell", [], ["hy", "cy"]⟩ .widening
          start = .ok result after ∧
        result.hidden.shape ≠ CellOperands.widening.state.hidden.shape ∧
        result.cell.shape ≠ CellOperands.widening.state.cell.shape := by
  intro start
  have declared (name : String) (shape : Shape) {graph : Graph}
      (reached : Graph.empty.Reaches graph) :=
    Graph.Reaches.call graph (.addInput name shape .float32) reached
  have reached : Graph.empty.Reaches start.graph :=
    declared "r" [.size 4, .size 1] <| declared "w" [.size 4, .size 1] <|
      declared "c" [.size 1, .size 1] <| declared "h" [.size 1, .size 1] <|
      declared "x" [.size 2, .size 1] <| .start .empty
  have widens : (match Lower.lstmCell ⟨"cell", "aten::lstm_cell", [], ["hy", "cy"]⟩ .widening
      start with
    | .ok result _ => some (result.hidden.shape, result.cell.shape)
    | .error _ _ => none) = some ([.size 2, .size 1], [.size 2, .size 1]) := by
    decide +kernel
  cases run : Lower.lstmCell ⟨"cell", "aten::lstm_cell", [], ["hy", "cy"]⟩ .widening start with
  | error failure after =>
      rw [run] at widens
      cases widens
  | ok result after =>
      rw [run, Option.some.injEq, Prod.mk.injEq] at widens
      refine ⟨reached, by decide, result, after, rfl, ?_, ?_⟩
      · rw [widens.1]
        decide
      · rw [widens.2]
        decide

end OperatorLowering
