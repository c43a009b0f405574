/-
**What a lowered cell computes.**

A cell of operands with the right shapes is lowered whatever the graph holds, and evaluating what
the graph grew by gives the new cell state and the new hidden state as they are written down: for
each batch of known or symbolic size, each way to leave out or to broadcast the biases, and all
values.

* `lstmCell_computes`: the lowering of a cell keeps its meaning.
-/

import OperatorLowering.Proofs.Cell.Lowering
import OperatorLowering.Proofs.Cell.Values

namespace OperatorLowering

variable {Element : Type} {arithmetic : Arithmetic Element} {sizes : String → Nat} {batch : Dim}
  {inputs units count : Nat} {dtype : ElementType}

namespace CellOperands

variable {operands : CellOperands}

/-- A bias of the right shape is fit for its half. -/
theorem biasFits_shaped {rows : Dim} {width inner : Nat} {operand weights : Handle}
    {bias : Option Handle} (operandType : operand.type = ⟨[rows, .size inner], dtype⟩)
    (weightsType : weights.type = ⟨[.size width, .size inner], dtype⟩)
    (biases : Handle.Biases ⟨[rows, .size width], dtype⟩ bias) :
    BiasFits operand weights bias := by
  intro given type present typed
  rw [halfType?_shaped operandType weightsType, Option.some.injEq] at typed
  rw [← typed]
  exact (biases given present).2

/-- Operands of the right shapes are fit for each other. -/
theorem Shaped.fit (shaped : operands.Shaped batch inputs units dtype) : operands.Fit := by
  refine ⟨biasFits_shaped shaped.input shaped.inputWeights shaped.inputBias,
    biasFits_shaped shaped.hidden shaped.hiddenWeights shaped.hiddenBias,
    ?_⟩
  intro type broken typed unquartered
  rw [gatesType?_shaped shaped, Option.some.injEq] at typed
  rw [← typed] at unquartered
  rcases unquartered with ⟨name, last, _⟩ | ⟨width, last, indivisible, _⟩
  · cases last
  · cases last
    exact indivisible (by omega)

end CellOperands

/-- What is read at the end of a followed plan is what was passed there. -/
theorem Environment.read_at {environment : Environment Element} {outputs : List Handle}
    {made : List (TypedTensor Element)} {index : Nat} {handle : Handle} {value : TypedTensor Element}
    (values : outputs.map environment.read = made.map some) (output : outputs[index]? = some handle)
    (result : made[index]? = some value) : environment.read handle = some value := by
  have here := congrArg (fun list => list[index]?) values
  simp only [List.getElem?_map, output, result, Option.map_some] at here
  exact Option.some.inj here

/-- **The lowering of a cell keeps its meaning.** -/
theorem lstmCell_computes (arithmetic : Arithmetic Element) (node : OperatorNode)
    (operands : CellOperands) (start : Context) (environment : Environment Element)
    (values : Handle → Tensor Element) (sizes : String → Nat) (batch : Dim)
    (inputs units count : Nat) (dtype : ElementType)
    (shaped : operands.Shaped batch inputs units dtype)
    (owned : ∀ tensor ∈ operands.tensors, start.graph.owns tensor = true)
    (stands : batch.Stands sizes count) (someRows : 1 ≤ count)
    (fitRows : count < 0x8000000000000000) (nonempty : 1 ≤ units)
    (fits : 4 * units < 0x8000000000000000) (named : 2 ≤ node.outputs.length)
    (given : ∀ tensor ∈ operands.tensors, environment tensor.name = some (.data (values tensor)) ∧
      (values tensor).dims = tensor.shape.under sizes) :
    ∃ result after final cell hidden, Lower.lstmCell node operands start = .ok result after ∧
      start.graph.evaluateSince? after.graph arithmetic environment = some final ∧
      final.read result.cell = some ⟨⟨[batch, .size units], dtype⟩, cell⟩ ∧
      final.read result.hidden = some ⟨⟨[batch, .size units], dtype⟩, hidden⟩ ∧
      cell.dims = [count, units] ∧ hidden.dims = [count, units] ∧
      ∀ row column, row < count → column < units →
        cell.entry [row, column] =
          Reference.cell arithmetic values operands inputs units row column ∧
        hidden.entry [row, column] =
          Reference.hidden arithmetic values operands inputs units row column := by
  obtain ⟨all, cell, hidden, computes, isLastCell, isLastHidden, isCell, isHidden⟩ :=
    @CellOperands.plan_computes _ arithmetic _ values _ _ _ operands _ _ shaped stands someRows
      fitRows nonempty fits fun handle member => (given handle member).2
  obtain ⟨result, after, outputs, run, completed⟩ := lstmCell_completes shaped.fit owned
    (Plan.pass_types (fun handle => rfl) computes) named
  have ownedPlan : start.graph.OwnsTensorsOf operands.plan := fun request member handle wired =>
    owned handle (CellOperands.mem_tensors_of_plan member wired)
  have gives : environment.Gives (Handle.typed values) operands.plan :=
    fun request member handle wired => Environment.read_eq_some.mpr
      ⟨(given handle (CellOperands.mem_tensors_of_plan member wired)).1, rfl⟩
  obtain ⟨final, evaluated, valued⟩ := completed.follows.evaluatesSince ownedPlan gives computes
  have readCell := Environment.read_at valued completed.cell isLastCell
  have readHidden := Environment.read_at valued completed.hidden isLastHidden
  have dimsCell := isCell.dims
  have dimsHidden := isHidden.dims
  rw [stands.under] at dimsCell dimsHidden
  refine ⟨result, after, final, cell.tensor, hidden.tensor, run, evaluated, ?_, ?_, dimsCell,
    dimsHidden, ?_⟩
  · rw [readCell, ← isCell.type]
  · rw [readHidden, ← isHidden.type]
  · intro row column above left
    rw [← stands.under] at above
    exact ⟨isCell.entry row column above left, isHidden.entry row column above left⟩

/-! ### A small cell -/

/-- The graph that holds some inputs and nothing else. -/
def Graph.ofInputs (inputs : List Handle) : Graph :=
  { Graph.empty with
    inputs := inputs
    tensors := ⟨inputs.map fun tensor => (tensor.name, tensor)⟩ }

/-- One unit on one input, for a batch of symbolic size, with a bias on the side of the input. -/
def CellOperands.small : CellOperands where
  input := ⟨"x", [.symbol "n", .size 1], .float32⟩
  state := ⟨⟨"h", [.symbol "n", .size 1], .float32⟩, ⟨"c", [.symbol "n", .size 1], .float32⟩⟩
  inputWeights := ⟨"w", [.size 4, .size 1], .float32⟩
  hiddenWeights := ⟨"r", [.size 4, .size 1], .float32⟩
  inputBias := some ⟨"b", [.size 4], .float32⟩

/-- Integers, with activations that leave them as they are. -/
def Arithmetic.linear : Arithmetic Int :=
  ⟨0, (· + ·), (· * ·), id, id⟩

/-- A tensor that counts up from one along its axes, for batches of two. -/
def Tensor.counting (handle : Handle) : Tensor Int :=
  ⟨handle.shape.under fun _ => 2, fun index => index.foldr (· + ·) 1⟩

/-- The new states of the small cell. -/
theorem lstmCell_computes_small :
    ∃ result after final cell hidden,
      Lower.lstmCell ⟨"cell", "aten::lstm_cell", [], ["hy", "cy"]⟩ .small
        ⟨.ofInputs CellOperands.small.tensors, .empty, [], []⟩ = .ok result after ∧
      (Graph.ofInputs CellOperands.small.tensors).evaluateSince? after.graph .linear
        (fun name => (CellOperands.small.tensors.find? (·.name = name)).map (.data ∘ .counting)) =
          some final ∧
      final.read result.cell = some ⟨⟨[.symbol "n", .size 1], .float32⟩, cell⟩ ∧
      final.read result.hidden = some ⟨⟨[.symbol "n", .size 1], .float32⟩, hidden⟩ ∧
      cell.entry [0, 0] = 162 ∧ cell.entry [1, 0] = 1500 ∧
      hidden.entry [0, 0] = 1944 ∧ hidden.entry [1, 0] = 30000 := by
  have shaped : CellOperands.small.Shaped (.symbol "n") 1 1 .float32 := by
    refine ⟨rfl, rfl, rfl, rfl, rfl, fun given present => ?_, fun given present => ?_⟩
    · cases present
      decide
    · cases present
  obtain ⟨result, after, final, cell, hidden, run, evaluated, readCell, readHidden, _, _, entries⟩ :=
    lstmCell_computes .linear ⟨"cell", "aten::lstm_cell", [], ["hy", "cy"]⟩ .small
      ⟨.ofInputs CellOperands.small.tensors, .empty, [], []⟩
      (fun name => (CellOperands.small.tensors.find? (·.name = name)).map (.data ∘ .counting))
      .counting (fun _ => 2) (.symbol "n") 1 1 2 .float32 shaped (by decide)
      (Or.inr ⟨"n", rfl, rfl⟩) (by decide) (by decide) (by decide) (by decide) (by decide)
      (by
        intro tensor member
        simp only [CellOperands.tensors, CellOperands.small, Option.toList, List.cons_append,
          List.nil_append, List.mem_cons, List.not_mem_nil, or_false] at member
        rcases member with rfl | rfl | rfl | rfl | rfl | rfl <;> exact ⟨rfl, rfl⟩)
  have first := entries 0 0 (by decide) (by decide)
  have second := entries 1 0 (by decide) (by decide)
  exact ⟨result, after, final, cell, hidden, run, evaluated, readCell, readHidden, first.1,
    second.1, first.2, second.2⟩

end OperatorLowering
