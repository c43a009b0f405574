/-
**Which cells are lowered.**

The lowering of a cell checks its operands in some twenty places, most of them within requests on
the graph. Taken together the checks come to one condition on the types of the operands, and every
requirement of it is checked: owned operands are lowered exactly if they meet it, and both outputs
then have the type it names.

* `CellOperands.Admits`: the condition;
* `CellOperands.admits_iff`: the types of the operands carry the plan;
* `lstmCell_returns_iff_admits`: a lowering of owned operands returns exactly if they meet it.
-/

import OperatorLowering.Proofs.Cell.Meaning
import OperatorLowering.Proofs.Cell.Types

namespace OperatorLowering

namespace CellOperands

/-- Half of the pre-activations can be had in this shape: an operand and weights have the same last
dimension, their batches broadcast, and the shape of their product takes the bias without changing.
A bias of lower rank is padded with leading ones, so its known dimensions are in range and at most
one symbol of it moves to an axis where it was not. -/
structure HalfAdmits (operand weights : Handle) (bias : Option Handle) (half : Shape) : Prop where
  product : ∃ (batch batchWeights joint : Shape) (rows width inner : Dim),
    operand.shape = batch ++ [rows, inner] ∧ weights.shape = batchWeights ++ [width, inner] ∧
      batch.broadcast? batchWeights = some joint ∧ half = joint ++ [rows, width]
  absorbs : ∀ given, bias = some given → half.absorbs given.shape = true
  pads : ∀ given, bias = some given → given.rank < half.length → given.shape.InRange ∧
    ∀ i j, given.shape.Moved (given.shape.padTo half.length) i →
      given.shape.Moved (given.shape.padTo half.length) j → i = j

/-- **The operands of a cell with outputs of this type**: they are of its element type, and the two
halves combine to pre-activations of known dimensions in range, whose last dimension has four equal
quarters, and a quarter of which combines with the old cell state to its shape. The axes in front of
the last one are numbered by integers in range. -/
structure Admits (operands : CellOperands) (type : TensorType) : Prop where
  dtypes : ∀ tensor ∈ operands.tensors, tensor.dtype = type.dtype
  shapes : ∃ (fromInput fromHidden total lead : Shape) (width : Int),
    HalfAdmits operands.input operands.inputWeights operands.inputBias fromInput ∧
      HalfAdmits operands.state.hidden operands.hiddenWeights operands.hiddenBias fromHidden ∧
      fromInput.broadcast? fromHidden = some total ∧ total.InRange ∧
      total = lead ++ [.size (4 * width)] ∧ lead.length ≤ indexMax ∧
      Shape.broadcast? (lead ++ [.size width]) operands.state.cell.shape = some type.shape

/-! ### The condition and the plan -/

variable {operands : CellOperands} {operand weights : Handle} {bias : Option Handle}

/-- A half in this shape has a product of this shape, and a bias that can be added to it. -/
theorem halfAdmits_iff {type : TensorType} (dtype : operand.dtype = type.dtype)
    (weightsDtype : weights.dtype = type.dtype)
    (biasDtype : ∀ given, bias = some given → given.dtype = type.dtype) :
    HalfAdmits operand weights bias type.shape ↔
      halfType? operand weights = some type ∧ Adds type bias ∧ BiasFits operand weights bias := by
  rw [halfType?_eq_some, and_iff_right dtype, and_iff_right weightsDtype]
  constructor
  · rintro ⟨product, absorbs, pads⟩
    refine ⟨product, fun given isGiven => ⟨biasDtype given isGiven, fun lower => ?_⟩, ?_⟩
    · exact Shape.targetIndices?_padTo_isSome.mpr (pads given isGiven lower)
    · intro given other isGiven typed
      have same : halfType? operand weights = some type :=
        halfType?_eq_some.mpr ⟨dtype, weightsDtype, product⟩
      rw [same] at typed
      cases typed
      exact absorbs given isGiven
  · rintro ⟨product, adds, fits⟩
    refine ⟨product, fun given isGiven => ?_, fun given isGiven lower => ?_⟩
    · exact fits given type isGiven (halfType?_eq_some.mpr ⟨dtype, weightsDtype, product⟩)
    · exact Shape.targetIndices?_padTo_isSome.mp ((adds given isGiven).2 lower)

/-- All tensors of a step have an element type if each of them does. -/
theorem dtypes_iff {dtype : ElementType} :
    (∀ tensor ∈ operands.tensors, tensor.dtype = dtype) ↔
      operands.input.dtype = dtype ∧ operands.state.hidden.dtype = dtype ∧
        operands.state.cell.dtype = dtype ∧ operands.inputWeights.dtype = dtype ∧
        operands.hiddenWeights.dtype = dtype ∧
        (∀ given, operands.inputBias = some given → given.dtype = dtype) ∧
        ∀ given, operands.hiddenBias = some given → given.dtype = dtype := by
  simp only [tensors, List.mem_append, List.mem_cons, List.not_mem_nil, or_false,
    Option.mem_toList, or_imp, forall_and, forall_eq, and_assoc]

/-- A last dimension that is four times a width has four equal known quarters. -/
theorem quartered (lead : Shape) (width : Int) (broken : Precondition) :
    ¬ Shape.Unquartered (lead ++ [.size (4 * width)]) broken := by
  rintro (⟨name, symbolic, _⟩ | ⟨other, same, indivisible, _⟩)
  · rw [List.getLast?_concat] at symbolic
    cases symbolic
  · rw [List.getLast?_concat] at same
    cases same
    exact indivisible (Int.mul_emod_right 4 width)

/-- **The condition** says that the checks of the lowering pass and that the types of the operands
carry the plan. -/
theorem admits_iff {type : TensorType} :
    operands.Admits type ↔ operands.Fit ∧ ∃ fromInput fromHidden total lead width,
      operands.Carries fromInput fromHidden total lead width type := by
  constructor
  · rintro ⟨dtypes, fromInput, fromHidden, total, lead, width, input, hidden, sum, inRange, rfl,
      ranked, kept⟩
    obtain ⟨inputDtype, hiddenDtype, cellDtype, weightsDtype, hiddenWeightsDtype, biasDtype,
      hiddenBiasDtype⟩ := dtypes_iff.mp dtypes
    obtain ⟨inputTyped, inputAdds, inputFits⟩ := (@halfAdmits_iff _ _ _
      ⟨fromInput, type.dtype⟩ inputDtype weightsDtype biasDtype).mp input
    obtain ⟨hiddenTyped, hiddenAdds, hiddenFits⟩ := (@halfAdmits_iff _ _ _
      ⟨fromHidden, type.dtype⟩ hiddenDtype hiddenWeightsDtype hiddenBiasDtype).mp hidden
    let totalType : TensorType := ⟨lead ++ [.size (4 * width)], type.dtype⟩
    have typed : operands.Typed ⟨fromInput, type.dtype⟩ ⟨fromHidden, type.dtype⟩ totalType :=
      ⟨inputTyped, inputAdds, hiddenTyped, hiddenAdds,
        Request.type?_elementwise.mpr ⟨rfl, sum, rfl⟩⟩
    refine ⟨⟨inputFits, hiddenFits, ?_⟩, _, _, totalType, lead, width, typed, rfl, inRange, ranked,
      ?_⟩
    · intro found broken isTotal
      rw [typed.gatesType?] at isTotal
      cases isTotal
      exact quartered lead width broken
    · rw [gate_eq rfl]
      exact Request.type?_elementwise.mpr ⟨cellDtype.symm, kept, rfl⟩
  · rintro ⟨fit, fromInput, fromHidden, total, lead, width, typed, split, inRange, ranked, kept⟩
    obtain ⟨halves, sum, totalDtype⟩ := Request.type?_elementwise.mp typed.total
    obtain ⟨cellDtype, kept, dtype⟩ := Request.type?_elementwise.mp kept
    rw [gate_eq split] at cellDtype kept dtype
    -- One element type runs from the outputs back to each operand.
    have fromInputDtype : fromInput.dtype = type.dtype := totalDtype.symm.trans dtype.symm
    have fromHiddenDtype : fromHidden.dtype = type.dtype := halves.symm.trans fromInputDtype
    obtain ⟨inputDtype, weightsDtype, _⟩ := halfType?_eq_some.mp typed.input
    obtain ⟨hiddenDtype, hiddenWeightsDtype, _⟩ := halfType?_eq_some.mp typed.hidden
    have biasDtype := fun given isGiven => (typed.inputBias given isGiven).1
    have hiddenBiasDtype := fun given isGiven => (typed.hiddenBias given isGiven).1
    refine ⟨dtypes_iff.mpr ⟨inputDtype.trans fromInputDtype, hiddenDtype.trans fromHiddenDtype,
      cellDtype.symm.trans dtype.symm, weightsDtype.trans fromInputDtype,
      hiddenWeightsDtype.trans fromHiddenDtype,
      fun given isGiven => (biasDtype given isGiven).trans fromInputDtype,
      fun given isGiven => (hiddenBiasDtype given isGiven).trans fromHiddenDtype⟩,
      fromInput.shape, fromHidden.shape, total.shape, lead, width, ?_, ?_, sum, inRange, split,
      ranked, kept⟩
    · exact (halfAdmits_iff inputDtype weightsDtype biasDtype).mpr
        ⟨typed.input, typed.inputBias, fit.input⟩
    · exact (halfAdmits_iff hiddenDtype hiddenWeightsDtype hiddenBiasDtype).mpr
        ⟨typed.hidden, typed.hiddenBias, fit.hidden⟩

/-- The cell state and the hidden state have one place each in the plan. -/
theorem planTypes_outputs {fromInput fromHidden total result : TensorType}
    (typed : operands.Typed fromInput fromHidden total) :
    (operands.planTypes fromInput fromHidden total result)[operands.gatesIndex + 11]? =
        some result ∧
      (operands.planTypes fromInput fromHidden total result)[operands.gatesIndex + 13]? =
        some result := by
  rw [← typed.length_bothTypes]
  exact ⟨Wire.read_offset Handle.type _ _ 11, Wire.read_offset Handle.type _ _ 13⟩

/-- **Operands that meet the condition** pass the checks of the lowering, and the types of the whole
plan are right, with the type of the condition for both outputs. -/
theorem Admits.passes {type : TensorType} (admits : operands.Admits type) :
    operands.Fit ∧ ∃ types, Plan.pass Request.type? Handle.type [] operands.plan = some types ∧
      types[operands.gatesIndex + 11]? = some type ∧
      types[operands.gatesIndex + 13]? = some type := by
  obtain ⟨fit, fromInput, fromHidden, total, lead, width, carries⟩ := admits_iff.mp admits
  exact ⟨fit, _, (pass_plan Request.agrees_type? fit).mpr
    ⟨fromInput, fromHidden, total, lead, width, type, carries, rfl⟩,
    planTypes_outputs carries.typed⟩

end CellOperands

/-! ### Lowerings that return -/

namespace Completed

variable {node : OperatorNode} {operands : CellOperands} {start after : Context}
  {result : CellOutputs} {outputs : List Handle}

/-- What was lowered met the condition. -/
theorem admits (completed : Completed node operands start result outputs after) :
    ∃ type, operands.Admits type := by
  obtain ⟨fromInput, fromHidden, total, lead, width, type, carries, _⟩ :=
    (CellOperands.pass_plan Request.agrees_type? completed.fit).mp completed.follows.types
  exact ⟨type, CellOperands.admits_iff.mpr
    ⟨completed.fit, fromInput, fromHidden, total, lead, width, carries⟩⟩

/-- Both outputs have the type of the condition. -/
theorem types (completed : Completed node operands start result outputs after) {type : TensorType}
    (admits : operands.Admits type) : result.hidden.type = type ∧ result.cell.type = type := by
  obtain ⟨_, types, passed, cell, hidden⟩ := admits.passes
  have same := passed.symm.trans completed.follows.types
  rw [Option.some.inj same, List.getElem?_map] at cell hidden
  rw [completed.cell] at cell
  rw [completed.hidden] at hidden
  exact ⟨Option.some.inj hidden, Option.some.inj cell⟩

end Completed

/-- **Which cells are lowered.** For owned operands and a node that names two outputs, the lowering
returns exactly if the operands meet the condition for some type, and both outputs are of that
type. -/
theorem lstmCell_returns_iff_admits {node : OperatorNode} {operands : CellOperands}
    {start : Context} (owned : ∀ tensor ∈ operands.tensors, start.graph.owns tensor = true)
    (named : 2 ≤ node.outputs.length) :
    ((∃ result after, Lower.lstmCell node operands start = .ok result after) ↔
        ∃ type, operands.Admits type) ∧
      ∀ result after type, Lower.lstmCell node operands start = .ok result after →
        operands.Admits type → result.hidden.type = type ∧ result.cell.type = type := by
  have completes {result : CellOutputs} {after : Context}
      (run : Lower.lstmCell node operands start = .ok result after) :
      ∃ outputs, Completed node operands start result outputs after :=
    (Lower.lstmCell_ends node operands start).ok run
  refine ⟨⟨?_, ?_⟩, ?_⟩
  · rintro ⟨result, after, run⟩
    obtain ⟨outputs, completed⟩ := completes run
    exact completed.admits
  · rintro ⟨type, admits⟩
    obtain ⟨fit, _, passed, _⟩ := admits.passes
    obtain ⟨result, after, _, run, _⟩ := lstmCell_completes fit owned passed named
    exact ⟨result, after, run⟩
  · intro result after type run admits
    obtain ⟨outputs, completed⟩ := completes run
    exact completed.types admits

/-- The small cell is lowered to outputs of one column. -/
theorem lstmCell_returns_small :
    ∃ result after, Lower.lstmCell ⟨"cell", "aten::lstm_cell", [], ["hy", "cy"]⟩ .small
        ⟨.ofInputs CellOperands.small.tensors, .empty, [], []⟩ = .ok result after ∧
      result.hidden.type = ⟨[.symbol "n", .size 1], .float32⟩ ∧
      result.cell.type = ⟨[.symbol "n", .size 1], .float32⟩ := by
  have admits : CellOperands.small.Admits ⟨[.symbol "n", .size 1], .float32⟩ := by
    refine ⟨by decide, [.symbol "n", .size 4], [.symbol "n", .size 4], _, [.symbol "n"], 1, ?_, ?_,
      rfl, ?_, rfl, by decide, rfl⟩
    · refine ⟨⟨[], [], [], _, _, _, rfl, rfl, rfl, rfl⟩, ?_, ?_⟩
      · rintro _ ⟨⟩
        rfl
      · rintro _ ⟨⟩ _
        refine ⟨?_, ?_⟩
        · intro size member
          cases List.mem_singleton.mp member
          decide
        · rintro i j ⟨name, there, _⟩ _
          have member : Dim.symbol name ∈ [.size 1, .size 4] := List.mem_of_getElem? there
          rcases List.mem_pair.mp member with same | same <;> cases same
    · exact ⟨⟨[], [], [], _, _, _, rfl, rfl, rfl, rfl⟩, nofun, nofun⟩
    · intro size member
      rcases List.mem_pair.mp member with same | same
      · cases same
      · cases same
        decide
  obtain ⟨returns, types⟩ := @lstmCell_returns_iff_admits
    ⟨"cell", "aten::lstm_cell", [], ["hy", "cy"]⟩ .small
    ⟨.ofInputs CellOperands.small.tensors, .empty, [], []⟩ (by decide) (by decide)
  obtain ⟨result, after, run⟩ := returns.mpr ⟨_, admits⟩
  exact ⟨result, after, run, types result after _ run admits⟩

end OperatorLowering
