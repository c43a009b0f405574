/-
**What the plan of a cell computes.**

A pass over the plan with the values of a cell's operands comes to its end, and the results at the
places of the new cell state and the new hidden state are the matrices that the step is written down
for. The pass goes over the plan part by part; each part adds some results, of which the last, or
the last of each gate, is a matrix with known entries.

* `CellOperands.withBias_computes`: the sum with a bias, of tensors of any ranks;
* `CellOperands.half_computes`, `CellOperands.gates_compute`, `CellOperands.update_computes`: the
  parts;
* `CellOperands.plan_computes`: the whole plan.
-/

import OperatorLowering.Proofs.Cell.Lowering
import OperatorLowering.Proofs.Cell.Matrices
import OperatorLowering.Proofs.Cell.Reference
import OperatorLowering.Proofs.Cell.Types
import OperatorLowering.Proofs.Meaning.Plan

namespace OperatorLowering

variable {Element : Type} {arithmetic : Arithmetic Element} {sizes : String → Nat} {rows : Dim}
  {values : Handle → Tensor Element} {dtype : ElementType} {width inner units count : Nat}

/-- A tensor that is declared as a matrix, with its own entries. -/
theorem Handle.isMatrix {handle : Handle} (type : handle.type = ⟨[rows, .size width], dtype⟩)
    (agrees : (handle.typed values).Agrees sizes) :
    (handle.typed values).IsMatrix sizes rows width dtype fun row column =>
      (values handle).entry [row, column] :=
  ⟨type, agrees, fun _ _ _ _ => rfl⟩

namespace CellOperands

/-- A pass over a plan with the values of the tensors. -/
abbrev computes (arithmetic : Arithmetic Element) (values : Handle → Tensor Element)
    (made : List (TypedTensor Element)) (plan : List (Request Wire)) :
    Option (List (TypedTensor Element)) :=
  Plan.pass (Request.compute? arithmetic) (Handle.typed values) made plan

/-! ### Halves -/

/-- **The sum with a bias** adds what the bias has at its last axes. -/
theorem withBias_computes {made : List (TypedTensor Element)} {product : TypedTensor Element}
    {wire : Wire} {bias : Handle} (leads : wire.read (Handle.typed values) made = some product)
    (absorbed : product.type.shape.absorbs bias.shape = true) (adds : Adds product.type (some bias))
    (symbols : bias.rank < product.type.shape.length →
      ∀ name, .symbol name ∈ bias.shape → 0 < sizes name)
    (agrees : product.Agrees sizes) (biasAgrees : (bias.typed values).Agrees sizes) :
    ∃ more value, computes arithmetic values made
        (wire.withBias made.length bias product.type.shape.length) = some (made ++ more ++ [value]) ∧
      value.type = product.type ∧ value.tensor.dims = product.tensor.dims ∧
      ∀ index, Index.Within product.tensor.dims index → value.tensor.entry index =
        arithmetic.add (product.tensor.entry index)
          ((values bias).entry (Index.broadcast (values bias).dims index)) := by
  obtain ⟨dtypes, pads⟩ := adds_some.mp adds
  unfold computes Wire.withBias
  by_cases lower : bias.rank < product.type.shape.length
  · obtain ⟨target, accepted⟩ := Option.isSome_iff_exists.mp (pads lower)
    have positive : ∀ dim ∈ Shape.under sizes (bias.shape.padTo product.type.shape.length),
        0 < dim := under_pos_of_target accepted fun name member =>
      symbols lower name ((List.mem_append.mp member).resolve_left fun front => by
        cases (List.mem_replicate.mp front).2)
    obtain ⟨padded, computed, typed, paddedAgrees, read⟩ :=
      @Request.compute?_padded _ arithmetic _ (bias.typed values) _ target accepted positive
        biasAgrees
    have paddedFits : product.type.shape.absorbs padded.type.shape = true := by
      rw [typed]
      exact Shape.absorbs_padTo absorbed
    obtain ⟨value, summed, same, dims, entries⟩ := @Request.compute?_elementwise _ arithmetic _ _ _
      .sum paddedFits (by rw [typed]; exact dtypes.symm) agrees paddedAgrees
    have readsBias : (Request.reshape (.tensor bias)
        (bias.shape.padTo product.type.shape.length)).traverse
          (Wire.read (Handle.typed values) made) = some (.reshape (bias.typed values)
            (bias.shape.padTo product.type.shape.length)) := rfl
    rw [if_pos lower, Plan.pass_cons readsBias computed,
      Plan.pass_cons (Wire.traverse_sum_last leads padded) summed]
    refine ⟨[padded], value, rfl, same, dims, fun index within => ?_⟩
    have long : index.length =
        product.type.shape.length - bias.type.shape.length + bias.type.shape.length := by
      rw [within.length_eq, agrees, Shape.length_under]
      exact (Nat.sub_add_cancel (Nat.le_of_lt lower)).symm
    have inside := within
    rw [agrees] at inside
    replace inside := Index.within_broadcast absorbed inside
    rw [← show (values bias).dims = bias.shape.under sizes from biasAgrees] at inside
    rw [entries index within, read index long inside]
    rfl
  · obtain ⟨value, summed, same, dims, entries⟩ := @Request.compute?_elementwise _ arithmetic _ _
      (bias.typed values) .sum absorbed dtypes.symm agrees biasAgrees
    rw [if_neg lower, Plan.pass_cons (Wire.traverse_sum leads bias) summed]
    refine ⟨[], value, ?_, same, dims, entries⟩
    rw [List.append_nil]
    rfl

/-- The dimensions of a bias of lower rank are known: it has none, or one or all columns. -/
theorem known_of_lower {shape : Shape} (lower : shape.length < 2)
    (absorbed : Shape.absorbs [rows, .size width] shape = true) :
    ∀ dim ∈ shape, dim = .one ∨ dim = .size width := by
  intro dim member
  obtain ⟨place, inside, rfl⟩ := List.getElem_of_mem member
  obtain rfl : place = 0 := by omega
  rw [← @fromEnd_getElem _ Dim.one shape 0 0 inside (by omega)]
  exact ((Shape.absorbs_iff.mp absorbed).2 0).symm

/-- So a bias of lower rank can be padded, and has no symbols. -/
theorem pads_of_lower {shape : Shape} (lower : shape.length < 2)
    (absorbed : Shape.absorbs [rows, .size width] shape = true) (positive : 0 < width)
    (fits : width < 0x8000000000000000) :
    (shape.targetIndices? (shape.padTo 2)).isSome = true ∧ ∀ name, .symbol name ∉ shape := by
  have known := known_of_lower lower absorbed
  have unnamed (name : String) : .symbol name ∉ shape := fun member => by
    rcases known _ member with same | same <;> cases same
  refine ⟨Shape.targetIndices?_padTo_isSome.mpr ⟨fun size member => ?_, ?_⟩, unnamed⟩
  · rw [indexMax]
    rcases known _ member with same | same
    · cases same
      decide
    · cases same
      omega
  · rintro i j ⟨name, there, _⟩
    have member := List.mem_of_getElem? there
    exact absurd ((List.mem_append.mp member).resolve_left fun front => by
      cases (List.mem_replicate.mp front).2) (unnamed name)

/-- The sum of a matrix with a bias is a matrix. -/
theorem matrix_withBias_computes {made : List (TypedTensor Element)} {product : TypedTensor Element}
    {entries : Nat → Nat → Element} {bias : Handle}
    (matrix : product.IsMatrix sizes rows width dtype entries) (positive : 0 < width)
    (fits : width < 0x8000000000000000) (dtypes : bias.dtype = dtype)
    (absorbed : Shape.absorbs [rows, .size width] bias.shape = true)
    (agrees : (bias.typed values).Agrees sizes) :
    ∃ more value, computes arithmetic values (made ++ [product])
        ((Wire.layer made.length).withBias (made.length + 1) bias 2) =
        some (made ++ [product] ++ more ++ [value]) ∧
      value.IsMatrix sizes rows width dtype fun row column => arithmetic.add (entries row column)
        ((values bias).entry (Index.broadcast (values bias).dims [row, column])) := by
  have absorbs : product.type.shape.absorbs bias.shape = true := by rwa [matrix.type]
  have rank : product.type.shape.length = 2 := by rw [matrix.type]; rfl
  have adds : Adds product.type (some bias) := by
    rw [adds_some, rank, matrix.type]
    exact ⟨dtypes, fun lower => (pads_of_lower lower absorbed positive fits).1⟩
  obtain ⟨more, value, passed, typed, dims, read⟩ := @withBias_computes _ arithmetic _ _ _ _ _ _
    (Wire.read_last _ made product) absorbs adds (fun lower name member =>
      absurd member ((pads_of_lower (rank ▸ lower) absorbed positive fits).2 name))
    matrix.agrees agrees
  rw [rank, List.length_append, List.length_singleton] at passed
  refine ⟨more, value, passed, typed.trans matrix.type, ?_, fun row column above left => ?_⟩
  · rw [TypedTensor.Agrees, dims, typed]
    exact matrix.agrees
  · rw [read _ (matrix.within above left), matrix.entry row column above left]

/-- **Half of the pre-activations.** -/
theorem half_computes {operand weights : Handle} {bias : Option Handle}
    (made : List (TypedTensor Element)) (operandType : operand.type = ⟨[rows, .size inner], dtype⟩)
    (weightsType : weights.type = ⟨[.size width, .size inner], dtype⟩)
    (biases : Handle.Biases ⟨[rows, .size width], dtype⟩ bias) (positive : 0 < width)
    (fits : width < 0x8000000000000000)
    (agrees : ∀ handle, handle = operand ∨ handle = weights ∨ handle ∈ bias.toList →
      (handle.typed values).Agrees sizes) :
    ∃ more value, computes arithmetic values made (half operand weights bias made.length) =
        some (made ++ more ++ [value]) ∧
      value.IsMatrix sizes rows width dtype
        (Reference.half arithmetic values inner operand weights bias) := by
  have reads : (Request.matmul (.tensor operand) (.tensor weights) false true).traverse
      (Wire.read (Handle.typed values) made) =
        some (.matmul (operand.typed values) (weights.typed values) false true) := rfl
  obtain ⟨product, multiplied, isProduct⟩ := @TypedTensor.IsMatrix.product _ arithmetic _ _ _ _ _ _ _
    _ _ (Handle.isMatrix operandType (agrees operand (Or.inl rfl)))
    (Handle.isMatrix weightsType (agrees weights (Or.inr (Or.inl rfl))))
  unfold half computes
  rw [Plan.pass_cons reads multiplied]
  cases bias with
  | none => exact ⟨[], product, by rw [List.append_nil]; rfl, isProduct⟩
  | some bias =>
      obtain ⟨dtypes, absorbed⟩ := biases bias rfl
      have rank : max operand.rank weights.rank = 2 := by
        have first := congrArg (fun type => type.shape.length) operandType
        have second := congrArg (fun type => type.shape.length) weightsType
        show max operand.shape.length weights.shape.length = 2
        rw [show operand.shape.length = 2 from first, show weights.shape.length = 2 from second]
        rfl
      obtain ⟨more, value, summed, isValue⟩ := @matrix_withBias_computes _ arithmetic _ _ _ _ _ made
        product _ bias isProduct positive fits dtypes absorbed
        (agrees bias (Or.inr (Or.inr (List.mem_singleton_self bias))))
      refine ⟨[product] ++ more, value, ?_, isValue⟩
      simp only [rank]
      rw [← List.append_assoc made]
      exact summed

/-! ### Gates -/

/-- **One gate.** -/
theorem gate_computes {all : TypedTensor Element} {entries : Nat → Nat → Element}
    (made rest : List (TypedTensor Element))
    (matrix : all.IsMatrix sizes rows (4 * units) dtype entries)
    (stands : rows.Stands sizes count) (someRows : 1 ≤ count) (fitRows : count < 0x8000000000000000)
    (nonempty : 1 ≤ units) (fits : 4 * units < 0x8000000000000000) {index : Nat} (few : index < 4)
    (kind : Activation) :
    ∃ chunk gate, (∀ later, computes arithmetic values (made ++ all :: rest)
        (Shape.gateRequest [rows, .size (4 * units : Nat)] (.layer made.length) index ::
          .activation (.layer (made.length + (rest.length + 1))) kind :: later) =
            computes arithmetic values (made ++ all :: (rest ++ [chunk, gate])) later) ∧
      gate.IsMatrix sizes rows units dtype fun row column =>
        kind.activate arithmetic (entries row (index * units + column)) := by
  obtain ⟨chunk, sliced, isChunk⟩ := @TypedTensor.IsMatrix.gate _ arithmetic _ _ _ _ _ _ _ _
    matrix stands someRows fitRows nonempty fits few
  obtain ⟨gate, activated, isGate⟩ := @TypedTensor.IsMatrix.activate _ arithmetic _ _ _ _ _ _
    isChunk kind
  refine ⟨chunk, gate, ?_, isGate⟩
  intro later
  unfold computes
  rw [Plan.pass_cons (traverse_gateRequest _ _ index all) sliced,
    Plan.pass_cons (traverse_gateActivation _ all chunk kind) activated]
  simp only [List.append_assoc, List.cons_append, List.nil_append]

/-- **The four gates.** -/
theorem gates_compute {all : TypedTensor Element} {entries : Nat → Nat → Element}
    (made : List (TypedTensor Element))
    (matrix : all.IsMatrix sizes rows (4 * units) dtype entries)
    (stands : rows.Stands sizes count) (someRows : 1 ≤ count) (fitRows : count < 0x8000000000000000)
    (nonempty : 1 ≤ units) (fits : 4 * units < 0x8000000000000000) :
    ∃ one input two forget three cell four output, computes arithmetic values (made ++ [all])
        (gates [rows, .size (4 * units : Nat)] made.length) =
          some (made ++ [all, one, input, two, forget, three, cell, four, output]) ∧
      (input.IsMatrix sizes rows units dtype fun row column =>
        arithmetic.sigmoid (entries row (0 * units + column))) ∧
      (forget.IsMatrix sizes rows units dtype fun row column =>
        arithmetic.sigmoid (entries row (1 * units + column))) ∧
      (cell.IsMatrix sizes rows units dtype fun row column =>
        arithmetic.tanh (entries row (2 * units + column))) ∧
      output.IsMatrix sizes rows units dtype fun row column =>
        arithmetic.sigmoid (entries row (3 * units + column)) := by
  have gate (rest : List (TypedTensor Element)) {index : Nat} (few : index < 4)
      (kind : Activation) := @gate_computes _ arithmetic _ _ values _ _ _ _ _ made rest matrix stands
    someRows fitRows nonempty fits _ few kind
  obtain ⟨one, input, first, isInput⟩ := gate [] (show 0 < 4 by decide) .sigmoid
  obtain ⟨two, forget, second, isForget⟩ := gate [one, input] (show 1 < 4 by decide) .sigmoid
  obtain ⟨three, cell, third, isCell⟩ :=
    gate [one, input, two, forget] (show 2 < 4 by decide) .tanh
  obtain ⟨four, output, fourth, isOutput⟩ :=
    gate [one, input, two, forget, three, cell] (show 3 < 4 by decide) .sigmoid
  refine ⟨one, input, two, forget, three, cell, four, output, ?_, isInput, isForget, isCell,
    isOutput⟩
  exact (first _).trans ((second _).trans ((third _).trans (fourth [])))

/-! ### The update -/

/-- **The update** of the cell state and the hidden state. -/
theorem update_computes {all one input two forget three cell four output : TypedTensor Element}
    {inputEntries forgetEntries cellEntries outputEntries stateEntries : Nat → Nat → Element}
    {state : Handle} (made : List (TypedTensor Element))
    (isInput : input.IsMatrix sizes rows units dtype inputEntries)
    (isForget : forget.IsMatrix sizes rows units dtype forgetEntries)
    (isCell : cell.IsMatrix sizes rows units dtype cellEntries)
    (isOutput : output.IsMatrix sizes rows units dtype outputEntries)
    (isState : (state.typed values).IsMatrix sizes rows units dtype stateEntries) :
    ∃ keeps entered updated squashed exposed, computes arithmetic values
        (made ++ [all, one, input, two, forget, three, cell, four, output])
        (kept state made.length :: (entering made.length ++ exposing made.length)) =
          some (made ++ [all, one, input, two, forget, three, cell, four, output, keeps, entered,
            updated, squashed, exposed]) ∧
      (updated.IsMatrix sizes rows units dtype fun row column => arithmetic.mul
        (arithmetic.mul (forgetEntries row column) (stateEntries row column))
        (arithmetic.mul (inputEntries row column) (cellEntries row column))) ∧
      exposed.IsMatrix sizes rows units dtype fun row column => arithmetic.mul
        (outputEntries row column) (arithmetic.tanh (arithmetic.mul
          (arithmetic.mul (forgetEntries row column) (stateEntries row column))
          (arithmetic.mul (inputEntries row column) (cellEntries row column)))) := by
  obtain ⟨keeps, keepsIs, isKeeps⟩ := @TypedTensor.IsMatrix.combine _ arithmetic _ _ _ _ _ _ _ _
    isForget isState .product
  obtain ⟨entered, enteredIs, isEntered⟩ := @TypedTensor.IsMatrix.combine _ arithmetic _ _ _ _ _ _ _
    _ isInput isCell .product
  obtain ⟨updated, updatedIs, isUpdated⟩ := @TypedTensor.IsMatrix.combine _ arithmetic _ _ _ _ _ _ _
    _ isKeeps isEntered .product
  obtain ⟨squashed, squashedIs, isSquashed⟩ := @TypedTensor.IsMatrix.activate _ arithmetic _ _ _ _ _
    _ isUpdated .tanh
  obtain ⟨exposed, exposedIs, isExposed⟩ := @TypedTensor.IsMatrix.combine _ arithmetic _ _ _ _ _ _ _
    _ isOutput isSquashed .product
  refine ⟨keeps, entered, updated, squashed, exposed, ?_, isUpdated, isExposed⟩
  unfold computes entering exposing
  refine (Plan.pass_cons (traverse_kept _ state rfl) keepsIs _).trans ?_
  rw [List.append_assoc]
  refine (Plan.pass_cons (Request.traverse_layers _ 2 6 .product rfl rfl) enteredIs _).trans ?_
  rw [List.append_assoc]
  refine (Plan.pass_cons (Request.traverse_layers _ 9 10 .product rfl rfl) updatedIs _).trans ?_
  rw [List.append_assoc]
  refine (Plan.pass_cons (Request.traverse_layer _ 11 .tanh rfl) squashedIs _).trans ?_
  rw [List.append_assoc]
  refine (Plan.pass_cons (Request.traverse_layers _ 8 12 .product rfl rfl) exposedIs _).trans ?_
  rw [List.append_assoc]
  rfl

/-! ### The whole plan -/

theorem halfType?_shaped {operand weights : Handle}
    (operandType : operand.type = ⟨[rows, .size inner], dtype⟩)
    (weightsType : weights.type = ⟨[.size width, .size inner], dtype⟩) :
    halfType? operand weights = some ⟨[rows, .size width], dtype⟩ := by
  rw [halfType?, operandType, weightsType]
  exact TypedTensor.IsMatrix.product_type rows inner width dtype

/-- The pre-activations have four gates side by side. -/
theorem gatesType?_shaped {operands : CellOperands} {batch : Dim} {inputs : Nat}
    (shaped : operands.Shaped batch inputs units dtype) :
    operands.gatesType? = some ⟨[batch, .size (4 * units : Nat)], dtype⟩ := by
  rw [gatesType?, halfType?_shaped shaped.input shaped.inputWeights,
    halfType?_shaped shaped.hidden shaped.hiddenWeights]
  exact Request.type?_elementwise_self _ .sum

/-- **The plan of a cell** computes its step as it is written down. -/
theorem plan_computes {operands : CellOperands} {batch : Dim} {inputs : Nat}
    (shaped : operands.Shaped batch inputs units dtype) (stands : batch.Stands sizes count)
    (someRows : 1 ≤ count) (fitRows : count < 0x8000000000000000) (nonempty : 1 ≤ units)
    (fits : 4 * units < 0x8000000000000000)
    (agrees : ∀ handle ∈ operands.tensors, (handle.typed values).Agrees sizes) :
    ∃ all cell hidden, computes arithmetic values [] operands.plan = some all ∧
      all[operands.gatesIndex + 11]? = some cell ∧ all[operands.gatesIndex + 13]? = some hidden ∧
      cell.IsMatrix sizes batch units dtype
        (Reference.cell arithmetic values operands inputs units) ∧
      hidden.IsMatrix sizes batch units dtype
        (Reference.hidden arithmetic values operands inputs units) := by
  have given {handle : Handle} (member : handle ∈ operands.tensors) := agrees handle member
  simp only [tensors, List.mem_append, List.mem_cons, List.not_mem_nil, or_false] at given
  have gatesShape : operands.gatesShape = [batch, .size (4 * units : Nat)] := by
    rw [CellOperands.gatesShape, gatesType?_shaped shaped]
    rfl
  -- The two halves and their sum.
  obtain ⟨before, fromInput, inputPassed, isFromInput⟩ := @half_computes _ arithmetic sizes _ values
    _ _ _ _ _ _ [] shaped.input shaped.inputWeights shaped.inputBias (by omega) fits
    fun handle which => given (by
      rcases which with rfl | rfl | bias
      · exact Or.inl (Or.inl (Or.inl rfl))
      · exact Or.inl (Or.inl (Or.inr (Or.inr (Or.inr (Or.inl rfl)))))
      · exact Or.inl (Or.inr bias))
  have inputCount : ([] ++ before ++ [fromInput]).length = operands.inputHalf.length :=
    (Plan.length_pass inputPassed).trans (Nat.zero_add _)
  obtain ⟨between, fromHidden, hiddenPassed, isFromHidden⟩ := @half_computes _ arithmetic sizes _
    values _ _ _ _ _ _ ([] ++ before ++ [fromInput]) shaped.hidden shaped.hiddenWeights
    shaped.hiddenBias (by omega) fits fun handle which => given (by
      rcases which with rfl | rfl | bias
      · exact Or.inl (Or.inl (Or.inr (Or.inl rfl)))
      · exact Or.inl (Or.inl (Or.inr (Or.inr (Or.inr (Or.inr rfl)))))
      · exact Or.inr bias)
  rw [inputCount] at hiddenPassed
  have bothCount : ([] ++ before ++ [fromInput] ++ between ++ [fromHidden]).length =
      operands.gatesIndex := by
    rw [Plan.length_pass hiddenPassed, inputCount]
    rfl
  obtain ⟨all, summed, isAll⟩ := @TypedTensor.IsMatrix.combine _ arithmetic _ _ _ _ _ _ _ _
    isFromInput isFromHidden .sum
  rw [List.nil_append] at inputPassed inputCount hiddenPassed bothCount
  let made := before ++ [fromInput] ++ between ++ [fromHidden]
  have readsTotal : operands.total.traverse (Wire.read (Handle.typed values) made) =
      some (.elementwise fromInput fromHidden .sum) :=
    operands.traverse_total _ inputCount bothCount
  -- The gates and the update.
  obtain ⟨one, input, two, forget, three, cell, four, output, gatesPassed, isInput, isForget, isCell,
    isOutput⟩ := @gates_compute _ arithmetic _ _ values _ _ _ _ _ made isAll stands someRows fitRows
      nonempty fits
  have isState := @Handle.isMatrix _ sizes _ values _ _ _ shaped.cell
    (given (Or.inl (Or.inl (Or.inr (Or.inr (Or.inl rfl))))))
  obtain ⟨keeps, entered, updated, squashed, exposed, updatePassed, isUpdated, isExposed⟩ :=
    @update_computes _ arithmetic _ _ _ _ _ all one _ two _ three _ four _ _ _ _ _ _ _ made isInput
      isForget isCell isOutput isState
  replace bothCount : made.length = operands.gatesIndex := bothCount
  rw [bothCount] at gatesPassed updatePassed
  refine ⟨made ++ [all, one, input, two, forget, three, cell, four, output, keeps, entered, updated,
    squashed, exposed], updated, exposed, ?_, ?_, ?_, isUpdated, isExposed⟩
  · have parts : operands.plan = operands.inputHalf ++ (operands.hiddenHalf ++ (operands.total ::
        (gates operands.gatesShape operands.gatesIndex ++
          (kept operands.state.cell operands.gatesIndex ::
            (entering operands.gatesIndex ++ exposing operands.gatesIndex))))) := by
      simp only [plan, opening, front, List.append_assoc, List.cons_append, List.nil_append]
    have inputPart : computes arithmetic values [] operands.inputHalf =
        some (before ++ [fromInput]) := inputPassed
    have hiddenPart : computes arithmetic values (before ++ [fromInput]) operands.hiddenHalf =
        some made := hiddenPassed
    unfold computes at inputPart hiddenPart gatesPassed
    rw [parts, computes, Plan.pass_append, inputPart, Option.bind_some, Plan.pass_append, hiddenPart,
      Option.bind_some, Plan.pass_cons readsTotal summed, Plan.pass_append, gatesShape, gatesPassed,
      Option.bind_some]
    exact updatePassed
  · rw [← bothCount, List.getElem?_append_right (Nat.le_add_right _ _), Nat.add_sub_cancel_left]
    rfl
  · rw [← bothCount, List.getElem?_append_right (Nat.le_add_right _ _), Nat.add_sub_cancel_left]
    rfl

end CellOperands

end OperatorLowering
