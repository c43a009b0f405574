/-
**Types along the plan of a cell.**

The types of the operands decide alone whether the backend accepts the whole plan. Half of the
pre-activations asks for a product of one element type and a bias that can be brought to its rank;
the gates ask for known dimensions that index constants hold; behind them only the old cell state
has to combine.

A pass may be made with any step that answers steady requests as their types do: those whose result
has the declared shape for every size of the symbols. All requests of the plan are steady.

* `pass_half`, `pass_total`, `pass_gates`, `pass_update`: one part of the plan, and what it asks for.
-/

import OperatorLowering.Proofs.Cell.Gates
import OperatorLowering.Proofs.Graph.Ranges

namespace OperatorLowering

/-- A step answers steady requests as their types do. -/
def Request.Agrees (step : Request TensorType → Option TensorType) : Prop :=
  ∀ request : Request TensorType, request.steady = true → step request = request.type?

/-- A type answers every request for itself. -/
theorem Request.agrees_type? : Request.Agrees Request.type? :=
  fun _ _ => rfl

/-- A gate takes the axes in front of the last one whole. -/
theorem Shape.gateRequest_of_ne_nil {Operand : Type} {shape : Shape} (ranked : shape ≠ [])
    (gates : Operand) (index : Nat) :
    shape.gateRequest gates index =
      .slice gates (List.replicate shape.dropLast.length 0 ++ [index * shape.quarter])
        (shape.dropLast ++ [.size shape.quarter])
        (List.replicate shape.dropLast.length 1 ++ [1]) := by
  have length : shape.length = shape.dropLast.length + 1 := by
    rw [List.length_dropLast]
    exact (Nat.sub_add_cancel (List.length_pos_iff.mpr ranked)).symm
  rw [gateRequest, length, Nat.add_sub_cancel, List.replicate_succ']

namespace CellOperands

variable {step : Request TensorType → Option TensorType} {made all : List TensorType}
  {rest : List (Request Wire)}

/-! ### Halves -/

/-- **The product of a half** takes stacks of matrices of one element type, the
weights transposed. -/
theorem halfType?_eq_some {operand weights : Handle} {type : TensorType} :
    halfType? operand weights = some type ↔
      operand.dtype = type.dtype ∧ weights.dtype = type.dtype ∧
        ∃ (batch batchWeights joint : Shape) (rows width inner : Dim),
          operand.shape = batch ++ [rows, inner] ∧ weights.shape = batchWeights ++ [width, inner] ∧
            batch.broadcast? batchWeights = some joint ∧ type.shape = joint ++ [rows, width] := by
  unfold halfType?
  rw [Request.type?_matmul]
  constructor
  · rintro ⟨same, dtype, first, second, joint, firstShape, secondShape, inner, batches, shape⟩
    refine ⟨dtype.symm, same.symm.trans dtype.symm, first.batch, second.batch, joint, first.rows,
      second.rows, first.columns, firstShape, ?_, batches, shape⟩
    have meets : first.columns = second.columns := inner
    rw [meets]
    exact secondShape
  · rintro ⟨dtype, same, batch, batchWeights, joint, rows, width, inner, operandShape, weightsShape,
      batches, shape⟩
    exact ⟨dtype.trans same.symm, dtype.symm, ⟨batch, rows, inner⟩, ⟨batchWeights, width, inner⟩,
      joint, operandShape, weightsShape, rfl, batches, shape⟩

/-- The types of the results of a half, its own at the end. -/
def halfTypes (bias : Option Handle) (type : TensorType) : List TensorType :=
  match bias with
  | none => [type]
  | some bias =>
    if bias.rank < type.shape.length then
      [type, ⟨bias.shape.padTo type.shape.length, bias.dtype⟩, type]
    else [type, type]

theorem halfTypes_last (bias : Option Handle) (type : TensorType) :
    ∃ before, halfTypes bias type = before ++ [type] := by
  cases bias with
  | none => exact ⟨[], rfl⟩
  | some bias =>
      by_cases lower : bias.rank < type.shape.length
      · exact ⟨[type, ⟨bias.shape.padTo type.shape.length, bias.dtype⟩], if_pos lower⟩
      · exact ⟨[type], if_neg lower⟩

theorem length_halfTypes {operand weights : Handle} {type : TensorType}
    (typed : halfType? operand weights = some type) (bias : Option Handle) (index : Nat) :
    (halfTypes bias type).length = (half operand weights bias index).length := by
  cases bias with
  | none => rfl
  | some bias =>
      simp only [half, halfTypes, Wire.withBias, (Lower.rank_of_halfType? typed).1]
      split <;> rfl

/-- A bias can be added to a product of this type: it is of the same element type and, if its rank
is lower, can be padded. -/
def Adds (type : TensorType) (bias : Option Handle) : Prop :=
  ∀ given, bias = some given → given.dtype = type.dtype ∧
    (given.rank < type.shape.length →
      (given.shape.targetIndices? (given.shape.padTo type.shape.length)).isSome = true)

/-- The sum of a product and a bias that it absorbs has the product's type. -/
theorem sum_type? {product bias : TensorType} {type : TensorType}
    (absorbed : product.shape.absorbs bias.shape = true) :
    (Request.elementwise product bias .sum).type? = some type ↔
      product.dtype = bias.dtype ∧ type = product := by
  rw [Request.type?_elementwise, Shape.broadcast?_of_absorbs absorbed]
  refine and_congr_right fun _ => ⟨?_, ?_⟩
  · rintro ⟨shape, dtype⟩
    cases type
    cases shape
    cases dtype
    rfl
  · rintro rfl
    exact ⟨rfl, rfl⟩

/-- The reshape of a bias of lower rank is steady. -/
theorem steady_padTo {bias : Handle} {rank : Nat} (lower : bias.rank < rank) :
    (Request.reshape bias.type (bias.shape.padTo rank)).steady = true := by
  have length : max rank bias.shape.length = rank := Nat.max_eq_left (Nat.le_of_lt lower)
  refine decide_eq_true ?_
  rw [Shape.length_padTo, length]
  rfl

/-- The types of the results of a sum with a bias. -/
def biasTypes (bias : Handle) (type : TensorType) : List TensorType :=
  if bias.rank < type.shape.length then
    [⟨bias.shape.padTo type.shape.length, bias.dtype⟩, type]
  else [type]

theorem halfTypes_some (bias : Handle) (type : TensorType) :
    halfTypes (some bias) type = [type] ++ biasTypes bias type := by
  simp only [halfTypes, biasTypes]
  split <;> rfl

theorem adds_some {bias : Handle} {type : TensorType} :
    Adds type (some bias) ↔ bias.dtype = type.dtype ∧ (bias.rank < type.shape.length →
      (bias.shape.targetIndices? (bias.shape.padTo type.shape.length)).isSome = true) :=
  ⟨fun holds => holds bias rfl, fun holds given same => by cases same; exact holds⟩

section Sums

variable {bias : Handle} {type : TensorType} {wire : Wire}

/-- A bias of lower rank that the product absorbs is padded and then added to it. -/
theorem pass_padded (agrees : Request.Agrees step)
    (leads : wire.read Handle.type made = some type)
    (absorbed : type.shape.absorbs bias.shape = true) (lower : bias.rank < type.shape.length) :
    Plan.pass step Handle.type made
        (wire.withBias made.length bias type.shape.length ++ rest) = some all ↔
      (bias.dtype = type.dtype ∧
          (bias.shape.targetIndices? (bias.shape.padTo type.shape.length)).isSome = true) ∧
        Plan.pass step Handle.type (made ++ biasTypes bias type) rest = some all := by
  let padded : TensorType := ⟨bias.shape.padTo type.shape.length, bias.dtype⟩
  have reshaped : (Request.reshape (.tensor bias) padded.shape).traverse
      (Wire.read Handle.type made) = some (.reshape bias.type padded.shape) := rfl
  have summed := Wire.traverse_sum_last leads padded
  have absorbedToo : type.shape.absorbs padded.shape = true := Shape.absorbs_padTo absorbed
  have results : made ++ biasTypes bias type = made ++ [padded] ++ [type] := by
    rw [biasTypes, if_pos lower, List.append_assoc]
    rfl
  have planned : wire.withBias made.length bias type.shape.length ++ rest =
      .reshape (.tensor bias) padded.shape :: .elementwise wire (.layer made.length) .sum ::
        rest := by
    rw [Wire.withBias, if_pos lower]
    rfl
  rw [planned, results, Plan.pass_cons_iff reshaped, agrees _ (steady_padTo lower)]
  constructor
  · rintro ⟨_, typed, passed⟩
    obtain ⟨target, found, rfl⟩ := Option.map_eq_some_iff.mp typed
    obtain ⟨total, typed, passed⟩ := (Plan.pass_cons_iff summed).mp passed
    rw [agrees _ rfl, sum_type? absorbedToo] at typed
    obtain ⟨dtypes, rfl⟩ := typed
    exact ⟨⟨dtypes.symm, Option.isSome_iff_exists.mpr ⟨target, found⟩⟩, passed⟩
  · rintro ⟨⟨dtypes, pads⟩, passed⟩
    obtain ⟨target, found⟩ := Option.isSome_iff_exists.mp pads
    refine ⟨padded, Option.map_eq_some_iff.mpr ⟨target, found, rfl⟩,
      (Plan.pass_cons_iff summed).mpr ⟨type, ?_, passed⟩⟩
    rw [agrees _ rfl, sum_type? absorbedToo]
    exact ⟨dtypes.symm, rfl⟩

/-- A bias of the product's rank that the product absorbs is added to it as it is. -/
theorem pass_level (agrees : Request.Agrees step)
    (leads : wire.read Handle.type made = some type)
    (absorbed : type.shape.absorbs bias.shape = true) (level : ¬ bias.rank < type.shape.length) :
    Plan.pass step Handle.type made
        (wire.withBias made.length bias type.shape.length ++ rest) = some all ↔
      bias.dtype = type.dtype ∧
        Plan.pass step Handle.type (made ++ biasTypes bias type) rest = some all := by
  have summed := Wire.traverse_sum leads bias
  have absorbedToo : type.shape.absorbs bias.type.shape = true := absorbed
  have planned : wire.withBias made.length bias type.shape.length ++ rest =
      .elementwise wire (.tensor bias) .sum :: rest := by
    rw [Wire.withBias, if_neg level]
    rfl
  rw [planned, biasTypes, if_neg level, Plan.pass_cons_iff summed, agrees _ rfl]
  constructor
  · rintro ⟨total, typed, passed⟩
    obtain ⟨dtypes, rfl⟩ := (sum_type? absorbedToo).mp typed
    exact ⟨dtypes.symm, passed⟩
  · rintro ⟨dtypes, passed⟩
    exact ⟨type, (sum_type? absorbedToo).mpr ⟨dtypes.symm, rfl⟩, passed⟩

/-- **A bias that the product absorbs** is added to it, padded first if its rank is lower. -/
theorem pass_withBias (agrees : Request.Agrees step)
    (leads : wire.read Handle.type made = some type)
    (absorbed : type.shape.absorbs bias.shape = true) :
    Plan.pass step Handle.type made
        (wire.withBias made.length bias type.shape.length ++ rest) = some all ↔
      Adds type (some bias) ∧
        Plan.pass step Handle.type (made ++ biasTypes bias type) rest = some all := by
  rw [adds_some]
  by_cases lower : bias.rank < type.shape.length
  · rw [pass_padded agrees leads absorbed lower, forall_prop_of_true lower]
  · rw [pass_level agrees leads absorbed lower, and_iff_left fun low => absurd low lower]

end Sums

/-- **Half of the pre-activations** asks for a product and a bias that can be added to it. -/
theorem pass_half (agrees : Request.Agrees step) {operand weights : Handle} {bias : Option Handle}
    (fits : BiasFits operand weights bias) :
    Plan.pass step Handle.type made (half operand weights bias made.length ++ rest) = some all ↔
      ∃ type, halfType? operand weights = some type ∧ Adds type bias ∧
        Plan.pass step Handle.type (made ++ halfTypes bias type) rest = some all := by
  have product : (Request.matmul (.tensor operand) (.tensor weights) false true).traverse
      (Wire.read Handle.type made) = some (.matmul operand.type weights.type false true) := rfl
  unfold half
  rw [List.cons_append, Plan.pass_cons_iff product, agrees _ rfl]
  refine exists_congr fun type => and_congr_right fun typed => ?_
  cases bias with
  | none => exact (and_iff_right nofun).symm
  | some bias =>
      have summed := @pass_withBias _ (made ++ [type]) all rest _ _ _ agrees
        (Wire.read_last Handle.type made type)
        (fits bias type rfl typed)
      rw [List.length_append, List.length_singleton] at summed
      rw [← (Lower.rank_of_halfType? typed).1, halfTypes_some, ← List.append_assoc]
      exact summed

/-! ### Gates -/

section Quarters

variable {type : TensorType} {lead : Shape} {width : Int}

theorem quarter_eq (split : type.shape = lead ++ [.size (4 * width)]) :
    type.shape.quarter = width := by
  have last : type.shape.getLast? = some (.size (4 * width)) := by
    rw [split]
    exact List.getLast?_concat
  unfold Shape.quarter
  rw [last]
  show 4 * width / 4 = width
  omega

theorem dropLast_eq (split : type.shape = lead ++ [.size (4 * width)]) :
    type.shape.dropLast = lead := by
  rw [split]
  exact List.dropLast_concat

/-- The type of a gate has a quarter of the last dimension. -/
theorem gate_eq (split : type.shape = lead ++ [.size (4 * width)]) :
    type.gate = ⟨lead ++ [.size width], type.dtype⟩ := by
  rw [TensorType.gate, quarter_eq split, dropLast_eq split]

theorem gateRequest_eq {Operand : Type} (split : type.shape = lead ++ [.size (4 * width)])
    (gates : Operand) (index : Nat) :
    type.shape.gateRequest gates index =
      .slice gates (List.replicate lead.length 0 ++ [index * width]) (lead ++ [.size width])
        (List.replicate lead.length 1 ++ [1]) := by
  have ranked : type.shape ≠ [] := by
    rw [split]
    exact List.append_ne_nil_of_right_ne_nil _ (List.cons_ne_nil _ _)
  rw [Shape.gateRequest_of_ne_nil ranked, quarter_eq split, dropLast_eq split]

/-- A gate may be sliced out of dimensions that are not empty. -/
theorem gate_sliced_iff {index : Nat} (few : index < 4) :
    Shape.Sliced (lead ++ [.size (4 * width)]) (List.replicate lead.length 0 ++ [index * width])
        (lead ++ [.size width]) (List.replicate lead.length 1 ++ [1]) ↔
      (∀ size, .size size ∈ lead → 1 ≤ size) ∧ 1 ≤ width := by
  rw [Shape.sliced_whole_append]
  refine and_congr_right fun _ => ⟨fun | .cons first _ => first.2.2.1, fun wide => ?_⟩
  have least : 0 ≤ (index : Int) * width :=
    Int.mul_nonneg (Int.natCast_nonneg index) (Int.le_trans (by decide) wide)
  have most : (index : Int) * width ≤ 3 * width :=
    Int.mul_le_mul_of_nonneg_right (by omega) (by omega)
  refine .cons ⟨least, Int.le_refl 1, wide, ?_⟩ .nil
  rintro _ ⟨⟩
  omega

/-- The integers of a gate's constants fit if those of the whole do. -/
theorem gate_fits_iff {index : Nat} (positive : ∀ size, .size size ∈ lead → 1 ≤ size)
    (wide : 1 ≤ width) :
    Span.AllFit (List.replicate lead.length 0 ++ [index * width]) (lead ++ [.size width])
        (List.replicate lead.length 1 ++ [1]) ↔
      (∀ size, .size size ∈ lead → size ≤ indexMax) ∧ (index + 1) * width ≤ indexMax ∧
        lead.length ≤ indexMax := by
  have least : 0 ≤ (index : Int) * width :=
    Int.mul_nonneg (Int.natCast_nonneg index) (Int.le_trans (by decide) wide)
  have next : (index + 1 : Int) * width = index * width + width := by
    rw [Int.add_mul, Int.one_mul]
  have stop : Span.stopsFor [index * width] [.size width] [1] = [(index + 1) * width] := by
    show [Span.stopFor (index * width) (.size width) 1] = _
    rw [Span.stopFor, next, Int.mul_one]
    exact congrArg (fun stop => [stop]) (by omega)
  have length : (lead ++ [Dim.size width]).length = lead.length + 1 := List.length_append
  rw [Span.AllFit, Span.stopsFor_whole_append, stop, length, axes_fit_iff,
    List.all_append, List.all_append, List.all_append, replicate_fits _ rfl,
    replicate_fits _ rfl]
  simp only [List.all_cons, List.all_nil, Bool.and_true, Bool.true_and, Bool.and_eq_true,
    Span.whole_ends_fit_iff positive, fitsIndex_nonneg least,
    fitsIndex_nonneg (next ▸ Int.add_nonneg least (Int.le_trans (by decide) wide))]
  constructor
  · rintro ⟨_, ⟨whole, last⟩, ranked, _⟩
    exact ⟨whole, last, ranked⟩
  · rintro ⟨whole, last, ranked⟩
    exact ⟨by omega, ⟨whole, last⟩, ranked, rfl⟩

/-- **The request for a gate** of pre-activations whose last dimension is four times a width. -/
theorem gateRequest_type? {gate : TensorType} {index : Nat}
    (split : type.shape = lead ++ [.size (4 * width)]) (few : index < 4) :
    (type.shape.gateRequest type index).type? = some gate ↔
      (lead.InRange ∧ 1 ≤ width ∧ (index + 1) * width ≤ indexMax ∧ lead.length ≤ indexMax) ∧
        gate = type.gate := by
  rw [gateRequest_eq split, Request.type?_slice, split, gate_sliced_iff few, gate_eq split]
  constructor
  · rintro ⟨⟨positive, wide⟩, fit, isGate⟩
    obtain ⟨most, ends, ranked⟩ := (gate_fits_iff positive wide).mp fit
    exact ⟨⟨fun size member => ⟨positive size member, most size member⟩, wide, ends, ranked⟩,
      isGate⟩
  · rintro ⟨⟨inRange, wide, ends, ranked⟩, isGate⟩
    have positive := fun size member => (inRange size member).1
    exact ⟨⟨positive, wide⟩, (gate_fits_iff positive wide).mpr
      ⟨fun size member => (inRange size member).2, ends, ranked⟩, isGate⟩

/-- A gate takes all other axes whole. -/
theorem steady_gateRequest (split : type.shape = lead ++ [.size (4 * width)]) (index : Nat) :
    (type.shape.gateRequest type index).steady = true := by
  rw [gateRequest_eq split]
  show ((type.shape.zip (lead ++ [Dim.size width])).all _) = true
  rw [split, List.zip_append rfl, List.all_append, Bool.and_eq_true]
  refine ⟨?_, rfl⟩
  rw [List.zip_eq_zipWith, List.zipWith_self, List.all_map, List.all_eq_true]
  intro dim _
  exact Bool.or_eq_true_iff.mpr (Or.inr (decide_eq_true rfl))

/-- The dimensions of the pre-activations are in range if the last gate has its constants. -/
theorem inRange_iff (split : type.shape = lead ++ [.size (4 * width)]) :
    type.shape.InRange ↔ lead.InRange ∧ 1 ≤ width ∧ ((3 : Nat) + 1 : Int) * width ≤ indexMax := by
  rw [split]
  constructor
  · intro inRange
    obtain ⟨positive, most⟩ := inRange (4 * width)
      (List.mem_append_right lead (List.mem_singleton_self _))
    exact ⟨fun size member => inRange size (List.mem_append_left _ member), by omega, most⟩
  · rintro ⟨inRange, wide, most⟩ size member
    rcases List.mem_append.mp member with old | last
    · exact inRange size old
    · cases List.mem_singleton.mp last
      exact ⟨by omega, most⟩

/-- **One gate** asks for its slice. -/
theorem pass_gate (agrees : Request.Agrees step) (split : type.shape = lead ++ [.size (4 * width)])
    {index : Nat} (few : index < 4) (kind : Activation) {between : List TensorType} :
    Plan.pass step Handle.type (made ++ type :: between)
        (type.shape.gateRequest (.layer made.length) index ::
          .activation (.layer (made.length + (between.length + 1))) kind :: rest) = some all ↔
      (lead.InRange ∧ 1 ≤ width ∧ (index + 1) * width ≤ indexMax ∧ lead.length ≤ indexMax) ∧
        Plan.pass step Handle.type (made ++ type :: (between ++ [type.gate, type.gate])) rest =
          some all := by
  rw [Plan.pass_cons_iff (traverse_gateRequest Handle.type _ _ type),
    agrees _ (steady_gateRequest split index)]
  simp only [gateRequest_type? split few, and_assoc, exists_and_left, exists_eq_left]
  refine and_congr_right fun _ => and_congr_right fun _ => and_congr_right fun _ =>
    and_congr_right fun _ => ?_
  rw [Plan.pass_cons_iff (traverse_gateActivation Handle.type type type.gate kind), agrees _ rfl]
  simp only [Request.type?, Option.some.injEq, exists_eq_left', List.append_assoc,
    List.cons_append, List.nil_append]

/-- **The four gates** ask for dimensions that index constants hold. -/
theorem pass_gates (agrees : Request.Agrees step)
    (split : type.shape = lead ++ [.size (4 * width)]) :
    Plan.pass step Handle.type (made ++ [type]) (gates type.shape made.length ++ rest) = some all ↔
      (type.shape.InRange ∧ lead.length ≤ indexMax) ∧
        Plan.pass step Handle.type (made ++ type :: List.replicate 8 type.gate) rest = some all := by
  have gate {index : Nat} (few : index < 4) (kind : Activation) {between : List TensorType}
      {rest : List (Request Wire)} :=
    @pass_gate step made all rest type lead width agrees split index few kind between
  rw [inRange_iff split]
  refine (gate (show 0 < 4 by decide) .sigmoid).trans ?_
  constructor
  · rintro ⟨_, passed⟩
    obtain ⟨_, passed⟩ := (gate (show 1 < 4 by decide) .sigmoid).mp passed
    obtain ⟨_, passed⟩ := (gate (show 2 < 4 by decide) .tanh).mp passed
    obtain ⟨⟨inRange, wide, most, ranked⟩, passed⟩ :=
      (gate (show 3 < 4 by decide) .sigmoid).mp passed
    exact ⟨⟨⟨inRange, wide, most⟩, ranked⟩, passed⟩
  · rintro ⟨⟨⟨inRange, wide, most⟩, ranked⟩, passed⟩
    have within (index : Nat) (few : index < 4) : (index + 1 : Int) * width ≤ indexMax :=
      Int.le_trans (Int.mul_le_mul_of_nonneg_right (by omega) (by omega)) most
    refine ⟨⟨inRange, wide, within 0 (by decide), ranked⟩, ?_⟩
    refine (gate (show 1 < 4 by decide) .sigmoid).mpr
      ⟨⟨inRange, wide, within 1 (by decide), ranked⟩, ?_⟩
    refine (gate (show 2 < 4 by decide) .tanh).mpr
      ⟨⟨inRange, wide, within 2 (by decide), ranked⟩, ?_⟩
    exact (gate (show 3 < 4 by decide) .sigmoid).mpr ⟨⟨inRange, wide, most, ranked⟩, passed⟩

end Quarters

/-! ### The sum of the halves -/

/-- The types of the two halves and of their sum. -/
structure Typed (operands : CellOperands) (fromInput fromHidden total : TensorType) : Prop where
  input : halfType? operands.input operands.inputWeights = some fromInput
  inputBias : Adds fromInput operands.inputBias
  hidden : halfType? operands.state.hidden operands.hiddenWeights = some fromHidden
  hiddenBias : Adds fromHidden operands.hiddenBias
  total : (Request.elementwise fromInput fromHidden .sum).type? = some total

variable {operands : CellOperands} {fromInput fromHidden total : TensorType}

theorem Typed.gatesType? (typed : operands.Typed fromInput fromHidden total) :
    operands.gatesType? = some total := by
  rw [CellOperands.gatesType?, typed.input, typed.hidden]
  exact typed.total

theorem Typed.gatesShape (typed : operands.Typed fromInput fromHidden total) :
    operands.gatesShape = total.shape := by
  rw [CellOperands.gatesShape, typed.gatesType?]
  rfl

/-- The types of the results in front of the pre-activations. -/
def bothTypes (operands : CellOperands) (fromInput fromHidden : TensorType) : List TensorType :=
  halfTypes operands.inputBias fromInput ++ halfTypes operands.hiddenBias fromHidden

theorem Typed.length_bothTypes (typed : operands.Typed fromInput fromHidden total) :
    (operands.bothTypes fromInput fromHidden).length = operands.gatesIndex := by
  rw [bothTypes, List.length_append, length_halfTypes typed.input operands.inputBias 0,
    length_halfTypes typed.hidden operands.hiddenBias operands.inputHalf.length]
  rfl

/-- **The halves and their sum** ask for two halves that combine. -/
theorem pass_total (agrees : Request.Agrees step)
    (inputFits : BiasFits operands.input operands.inputWeights operands.inputBias)
    (hiddenFits : BiasFits operands.state.hidden operands.hiddenWeights operands.hiddenBias) :
    Plan.pass step Handle.type []
        (operands.inputHalf ++ (operands.hiddenHalf ++ (operands.total :: rest))) = some all ↔
      ∃ fromInput fromHidden total, operands.Typed fromInput fromHidden total ∧
        Plan.pass step Handle.type (operands.bothTypes fromInput fromHidden ++ [total]) rest =
          some all := by
  have sums {fromInput fromHidden : TensorType}
      (input : halfType? operands.input operands.inputWeights = some fromInput)
      (hidden : halfType? operands.state.hidden operands.hiddenWeights = some fromHidden) :
      operands.total.traverse (Wire.read Handle.type (operands.bothTypes fromInput fromHidden)) =
        some (.elementwise fromInput fromHidden .sum) := by
    obtain ⟨before, isInput⟩ := halfTypes_last operands.inputBias fromInput
    obtain ⟨between, isHidden⟩ := halfTypes_last operands.hiddenBias fromHidden
    have inputCount := length_halfTypes input operands.inputBias 0
    have hiddenCount := length_halfTypes hidden operands.hiddenBias operands.inputHalf.length
    rw [isInput] at inputCount
    rw [isHidden] at hiddenCount
    have bothCount : (before ++ [fromInput] ++ between ++ [fromHidden]).length =
        operands.gatesIndex := by
      rw [List.append_assoc, List.length_append, inputCount, hiddenCount]
      rfl
    rw [bothTypes, isInput, isHidden, ← List.append_assoc]
    exact operands.traverse_total Handle.type inputCount bothCount
  have place {fromInput : TensorType}
      (input : halfType? operands.input operands.inputWeights = some fromInput) :
      operands.hiddenHalf = half operands.state.hidden operands.hiddenWeights operands.hiddenBias
        (halfTypes operands.inputBias fromInput).length := by
    rw [length_halfTypes input operands.inputBias 0]
    rfl
  refine (@pass_half step [] all (operands.hiddenHalf ++ (operands.total :: rest)) agrees _ _ _
    inputFits).trans ?_
  constructor
  · rintro ⟨fromInput, input, inputBias, passed⟩
    rw [place input] at passed
    obtain ⟨fromHidden, hidden, hiddenBias, passed⟩ := (pass_half agrees hiddenFits).mp passed
    obtain ⟨total, typed, passed⟩ := (Plan.pass_cons_iff (sums input hidden)).mp passed
    rw [agrees _ rfl] at typed
    exact ⟨fromInput, fromHidden, total, ⟨input, inputBias, hidden, hiddenBias, typed⟩, passed⟩
  · rintro ⟨fromInput, fromHidden, total, typed, passed⟩
    refine ⟨fromInput, typed.input, typed.inputBias, ?_⟩
    rw [place typed.input]
    refine (pass_half agrees hiddenFits).mpr ⟨fromHidden, typed.hidden, typed.hiddenBias, ?_⟩
    refine (Plan.pass_cons_iff (sums typed.input typed.hidden)).mpr ⟨total, ?_, passed⟩
    rw [agrees _ rfl]
    exact typed.total

/-! ### The update -/

/-- **Behind the gates** only the old cell state has to combine with a gate. What both combine to is
the type of all that follows, but for what enters the cell state. -/
theorem pass_update (agrees : Request.Agrees step) {type : TensorType} {cell : Handle} :
    Plan.pass step Handle.type (made ++ type :: List.replicate 8 type.gate)
        (kept cell made.length :: (entering made.length ++ exposing made.length)) = some all ↔
      ∃ result : TensorType, (Request.elementwise type.gate cell.type .product).type? =
          some result ∧
        all = made ++ (type :: List.replicate 8 type.gate ++
          [result, type.gate, result, result, result]) := by
  let gates := type :: List.replicate 8 type.gate
  have readsKept : (kept cell made.length).traverse (Wire.read Handle.type (made ++ gates)) =
      some (.elementwise type.gate cell.type .product) :=
    traverse_kept Handle.type cell rfl
  rw [Plan.pass_cons_iff readsKept, agrees _ rfl]
  refine exists_congr fun result => and_congr_right fun typed => ?_
  obtain ⟨gateThenResult, resultThenGate⟩ := Request.type?_elementwise_again .product typed
  have enters : step (.elementwise type.gate type.gate .product) = some type.gate :=
    (agrees _ rfl).trans (Request.type?_elementwise_self type.gate .product)
  have updates : step (.elementwise result type.gate .product) = some result :=
    (agrees _ rfl).trans resultThenGate
  have squashes : step (.activation result .tanh) = some result := agrees _ rfl
  have exposes : step (.elementwise type.gate result .product) = some result :=
    (agrees _ rfl).trans gateThenResult
  have passes : Plan.pass step Handle.type (made ++ gates ++ [result])
      (entering made.length ++ exposing made.length) =
        some (made ++ (gates ++ [result, type.gate, result, result, result])) := by
    rw [List.append_assoc]
    refine (Plan.pass_cons (Request.traverse_layers Handle.type 2 6 .product rfl rfl) enters
      _).trans ?_
    rw [List.append_assoc]
    refine (Plan.pass_cons (Request.traverse_layers Handle.type 9 10 .product rfl rfl) updates
      _).trans ?_
    rw [List.append_assoc]
    refine (Plan.pass_cons (Request.traverse_layer Handle.type 11 .tanh rfl) squashes _).trans ?_
    rw [List.append_assoc]
    refine (Plan.pass_cons (Request.traverse_layers Handle.type 8 12 .product rfl rfl) exposes
      _).trans ?_
    rw [List.append_assoc]
    rfl
  rw [passes, Option.some.injEq, eq_comm]

/-! ### The whole plan -/

/-- A shape with four equal known quarters, and what is in front of its last dimension. -/
theorem split_of_quartered {shape : Shape} (ranked : shape ≠ [])
    (quartered : ∀ broken, ¬ shape.Unquartered broken) :
    ∃ lead width, shape = lead ++ [.size (4 * width)] := by
  obtain ⟨lead, last, rfl⟩ := (List.eq_nil_or_concat shape).resolve_left ranked
  rw [List.concat_eq_append] at quartered ⊢
  cases last with
  | symbol name =>
      exact absurd (Or.inl ⟨name, List.getLast?_concat, rfl⟩) (quartered (.symbolicGate name))
  | size width =>
      by_cases divisible : width % 4 = 0
      · refine ⟨lead, width / 4, ?_⟩
        rw [Int.mul_ediv_cancel' (Int.dvd_of_emod_eq_zero divisible)]
      · exact absurd (Or.inr ⟨width, List.getLast?_concat, divisible, rfl⟩)
          (quartered (.indivisibleGate width))

/-- The types of the operands carry the whole plan, with a cell state of type `result`. -/
structure Carries (operands : CellOperands) (fromInput fromHidden total : TensorType)
    (lead : Shape) (width : Int) (result : TensorType) : Prop where
  typed : operands.Typed fromInput fromHidden total
  split : total.shape = lead ++ [.size (4 * width)]
  inRange : total.shape.InRange
  ranked : lead.length ≤ indexMax
  kept : (Request.elementwise total.gate operands.state.cell.type .product).type? = some result

/-- The types of the results of the plan. -/
def planTypes (operands : CellOperands) (fromInput fromHidden total result : TensorType) :
    List TensorType :=
  operands.bothTypes fromInput fromHidden ++ (total :: List.replicate 8 total.gate ++
    [result, total.gate, result, result, result])

/-- **The whole plan** is passed over if the types of the operands carry it. -/
theorem pass_plan (agrees : Request.Agrees step) (fit : operands.Fit) :
    Plan.pass step Handle.type [] operands.plan = some all ↔
      ∃ fromInput fromHidden total lead width result,
        operands.Carries fromInput fromHidden total lead width result ∧
          all = operands.planTypes fromInput fromHidden total result := by
  have plan : operands.plan = operands.inputHalf ++ (operands.hiddenHalf ++ (operands.total ::
      (gates operands.gatesShape operands.gatesIndex ++
        kept operands.state.cell operands.gatesIndex ::
          (entering operands.gatesIndex ++ exposing operands.gatesIndex)))) := by
    simp only [CellOperands.plan, opening, front, List.append_assoc, List.cons_append,
      List.nil_append]
  rw [plan, pass_total agrees fit.input fit.hidden]
  refine exists_congr fun fromInput => exists_congr fun fromHidden => exists_congr fun total => ?_
  constructor
  · rintro ⟨typed, passed⟩
    have ranked : total.shape ≠ [] := Lower.ranked_of_gatesType? typed.gatesType?
    obtain ⟨lead, width, split⟩ := split_of_quartered ranked fun broken =>
      fit.quarters total broken typed.gatesType?
    rw [typed.gatesShape, ← typed.length_bothTypes] at passed
    obtain ⟨⟨inRange, ranked⟩, passed⟩ := (pass_gates agrees split).mp passed
    obtain ⟨result, kept, same⟩ := (pass_update agrees).mp passed
    exact ⟨lead, width, result, ⟨typed, split, inRange, ranked, kept⟩, same⟩
  · rintro ⟨lead, width, result, ⟨typed, split, inRange, ranked, kept⟩, same⟩
    refine ⟨typed, ?_⟩
    rw [typed.gatesShape, ← typed.length_bothTypes]
    exact (pass_gates agrees split).mpr ⟨⟨inRange, ranked⟩, (pass_update agrees).mpr
      ⟨result, kept, same⟩⟩

end CellOperands

end OperatorLowering
