/-
**Failures of conversions and their node.**

A conversion that fails does so with an error that names its node and says what is wrong. There are
two exceptions, since what the graph says becomes an error of the node only if it is a rejection.

The index constants of slices and reshapes hold 64 bits, and a request for a larger integer fails as
it is. The integers that a cell asks for are dimensions of its operands, quarters of these and
numbers of axes. So this needs an operand that is itself too large. And a literal among the
arguments may be withheld from the graph: it cannot be read, or its bytes are too many to be written
down.

* `CellOperands.outsized_of_oversized`: the requests of a cell's plan for larger integers;
* `convert_names`: every failure of a conversion with the standard registry;
* `withheld_literals_unnamed`: a literal of either kind fails without the node.
-/

import OperatorLowering.Proofs.Cell.Constants
import OperatorLowering.Proofs.Cell.Conversion
import OperatorLowering.Proofs.Cell.Types

namespace OperatorLowering

/-! ### Shapes beyond index constants -/

/-- An index constant cannot hold some known dimension of a shape, or cannot number its axes; the
latter takes more axes than a list in memory has. -/
def Shape.Outsized (shape : Shape) : Prop :=
  (∃ size, .size size ∈ shape ∧ indexMax < size) ∨ indexMax + 1 < shape.length

namespace Shape

theorem ne_one_of_large {size : Int} (large : indexMax < size) : Dim.size size ≠ .one := by
  rintro ⟨⟩
  exact absurd large (by decide)

/-- A shape made of the dimensions of two others, and as long as the longer of them, is outsized
only if either of them is. -/
theorem Outsized.of_merged {first second shape : Shape} (outsized : shape.Outsized)
    (dims : ∀ dim ∈ shape, dim ≠ .one → dim ∈ first ∨ dim ∈ second)
    (length : shape.length = max first.length second.length) : first.Outsized ∨ second.Outsized := by
  rcases outsized with ⟨size, member, large⟩ | long
  · exact (dims _ member (ne_one_of_large large)).imp
      (fun found => Or.inl ⟨size, found, large⟩) (fun found => Or.inl ⟨size, found, large⟩)
  · rcases Nat.le_total first.length second.length with shorter | longer
    · rw [length, Nat.max_eq_right shorter] at long
      exact Or.inr (Or.inr long)
    · rw [length, Nat.max_eq_left longer] at long
      exact Or.inl (Or.inr long)

/-- A padded shape asks for integers beyond 64 bits only if the shape itself is outsized. -/
theorem Outsized.of_padded {bias : Handle} {rank : Nat}
    (oversized : (Request.reshape bias.type (bias.shape.padTo rank)).Oversized) :
    bias.shape.Outsized := by
  obtain ⟨size, member, large⟩ := oversized_reshape oversized
  refine Or.inl ⟨size, (List.mem_append.mp member).resolve_left fun front => ?_, large⟩
  exact ne_one_of_large large (List.mem_replicate.mp front).2

/-- A quarter that is not empty is one of a known last dimension. -/
theorem getLast?_of_quarter {shape : Shape} (wide : 1 ≤ shape.quarter) :
    ∃ width, shape.getLast? = some (.size width) ∧ shape.quarter = width / 4 := by
  unfold quarter at wide ⊢
  split at wide
  · next width last => exact ⟨width, last, rfl⟩
  · exact absurd wide (by decide)

/-- **A gate** asks for integers beyond 64 bits only if the pre-activations are outsized. -/
theorem Outsized.of_gate {shape : Shape} {gates : TensorType} {index : Nat} (few : index < 4)
    (oversized : (shape.gateRequest gates index).Oversized) : shape.Outsized := by
  have positive := (Request.oversized_slice oversized).1.positive
  have lead : ∀ size, Dim.size size ∈ shape.dropLast → 1 ≤ size := fun size member =>
    positive size (List.mem_append_left _ member)
  have wide : 1 ≤ shape.quarter := positive _ (List.mem_append_right _ (List.mem_singleton_self _))
  obtain ⟨width, last, quarter⟩ := getLast?_of_quarter wide
  have split : shape.dropLast ++ [.size width] = shape := List.dropLast_append_getLast? _ last
  have ranked : shape ≠ [] := by
    rintro rfl
    cases last
  rw [gateRequest_of_ne_nil ranked] at oversized
  by_contra small
  refine (Request.oversized_slice oversized).2 ((CellOperands.gate_fits_iff lead wide).mpr
    ⟨?_, ?_, ?_⟩)
  · intro size member
    by_contra large
    exact small (Or.inl ⟨size, List.dropLast_subset _ member, Int.not_le.mp large⟩)
  · have most : (index + 1 : Int) * shape.quarter ≤ 4 * shape.quarter :=
      Int.mul_le_mul_of_nonneg_right (by omega) (by omega)
    by_contra large
    exact small (Or.inl ⟨width, List.mem_of_getLast? last, by omega⟩)
  · by_contra long
    refine small (Or.inr ?_)
    rw [← split, List.length_append]
    exact Int.add_lt_add_right (Int.not_le.mp long) 1

end Shape

/-! ### Operands beyond index constants -/

namespace CellOperands

/-- A product is outsized only if one of its factors is. -/
theorem outsized_of_halfType? {operand weights : Handle} {type : TensorType}
    (typed : halfType? operand weights = some type) (outsized : type.shape.Outsized) :
    operand.shape.Outsized ∨ weights.shape.Outsized := by
  obtain ⟨_, _, batch, batchWeights, joint, rows, width, inner, operandShape, weightsShape, batches,
    shape⟩ := halfType?_eq_some.mp typed
  refine outsized.of_merged ?_ (Lower.rank_of_halfType? typed).1
  intro dim member other
  rw [operandShape, weightsShape]
  rw [shape] at member
  rcases List.mem_append.mp member with front | back
  · exact (Shape.mem_of_broadcast? batches front other).imp (List.mem_append_left _)
      (List.mem_append_left _)
  · rcases List.mem_pair.mp back with rfl | rfl
    · exact Or.inl (List.mem_append_right _ List.mem_cons_self)
    · exact Or.inr (List.mem_append_right _ List.mem_cons_self)

variable {operands : CellOperands}

/-- The pre-activations are outsized only if an operand is. -/
theorem outsized_of_gatesShape (outsized : operands.gatesShape.Outsized) :
    ∃ tensor ∈ operands.tensors, tensor.shape.Outsized := by
  cases typed : operands.gatesType? with
  | none =>
      rw [gatesShape, typed] at outsized
      rcases outsized with ⟨_, member, _⟩ | long
      · cases member
      · exact absurd long (by decide)
  | some type =>
      have same : operands.gatesShape = type.shape := by
        rw [gatesShape, typed]
        rfl
      rw [same] at outsized
      obtain ⟨fromInput, inputType, typed⟩ := Option.bind_eq_some_iff.mp typed
      obtain ⟨fromHidden, hiddenType, typed⟩ := Option.bind_eq_some_iff.mp typed
      obtain ⟨_, combined, _⟩ := Request.type?_elementwise.mp typed
      have halves : fromInput.shape.Outsized ∨ fromHidden.shape.Outsized :=
        outsized.of_merged (fun _ => Shape.mem_of_broadcast? combined)
          (Shape.length_of_broadcast? combined)
      rcases halves with wide | wide
      · rcases outsized_of_halfType? inputType wide with large | large
        · exact ⟨operands.input, by simp [tensors], large⟩
        · exact ⟨operands.inputWeights, by simp [tensors], large⟩
      · rcases outsized_of_halfType? hiddenType wide with large | large
        · exact ⟨operands.state.hidden, by simp [tensors], large⟩
        · exact ⟨operands.hiddenWeights, by simp [tensors], large⟩

/-- A half reads index constants for its bias alone. -/
theorem indexed_of_mem_half {operand weights : Handle} {bias : Option Handle} {index : Nat}
    {request : Request Wire} (member : request ∈ half operand weights bias index)
    (indexed : request.primitive.kind = .slice ∨ request.primitive.kind = .reshape) :
    ∃ given ∈ bias.toList, ∃ rank,
      request = .reshape (.tensor given) (given.shape.padTo rank) := by
  rcases cases_of_mem_half member with rfl | ⟨given, isBias, summed⟩
  · simp [Request.primitive, Primitive.kind] at indexed
  · rcases Wire.cases_of_mem_withBias summed with rfl | ⟨_, rfl, _⟩
    · exact ⟨given, isBias, _, rfl⟩
    · simp [Request.primitive, Primitive.kind] at indexed

/-- **The requests that read index constants** are those for gates and for padded biases. -/
theorem indexed_of_mem_opening {request : Request Wire} (member : request ∈ operands.opening)
    (indexed : request.primitive.kind = .slice ∨ request.primitive.kind = .reshape) :
    (∃ place index, index < 4 ∧ request = operands.gatesShape.gateRequest (.layer place) index) ∨
      ∃ bias ∈ operands.tensors, ∃ rank,
        request = .reshape (.tensor bias) (bias.shape.padTo rank) := by
  simp only [opening, front, List.mem_append, List.mem_singleton] at member
  rcases member with (((input | hidden) | rfl) | gate) | rfl
  · obtain ⟨bias, given, padded⟩ := indexed_of_mem_half input indexed
    exact Or.inr ⟨bias, List.mem_append_left _ (List.mem_append_right _ given), padded⟩
  · obtain ⟨bias, given, padded⟩ := indexed_of_mem_half hidden indexed
    exact Or.inr ⟨bias, List.mem_append_right _ given, padded⟩
  · simp [total, Request.primitive, Primitive.kind] at indexed
  · rcases cases_of_mem_gates gate with sliced | ⟨_, _, rfl⟩
    · exact Or.inl ⟨_, sliced⟩
    · simp [Request.primitive, Primitive.kind] at indexed
  · simp [kept, Request.primitive, Primitive.kind] at indexed

/-- **The plan asks for integers beyond 64 bits** only if an operand is outsized. -/
theorem outsized_of_oversized {request : Request Wire} {resolved : Request Handle}
    {outputs : List Handle} (member : request ∈ operands.opening)
    (reads : request.traverse (Wire.read id outputs) = some resolved)
    (oversized : (resolved.map Handle.type).Oversized) :
    ∃ tensor ∈ operands.tensors, tensor.shape.Outsized := by
  have indexed := oversized.indexed
  rw [Request.primitive_map, (Request.traverse_eq_some reads).1] at indexed
  rcases indexed_of_mem_opening member indexed with
    ⟨place, index, few, rfl⟩ | ⟨bias, given, rank, rfl⟩
  · obtain ⟨gates, _, read⟩ := Option.bind_eq_some_iff.mp reads
    cases read
    exact outsized_of_gatesShape (Shape.Outsized.of_gate few oversized)
  · cases reads
    exact ⟨bias, given, Shape.Outsized.of_padded oversized⟩

end CellOperands

/-! ### Failures -/

/-- The failure is an error that names the node and is of a particular kind. -/
def Failure.Names (failure : Failure) (node : OperatorNode) : Prop :=
  ∃ cause, failure = .ofNode node cause ∧ ∀ message, cause ≠ .general message

/-- The failure is that of a literal among the arguments: of a type that is computed on, and
withheld from the graph. -/
def Failure.Withholds (failure : Failure) (arguments : List Argument) : Prop :=
  ∃ (value : Literal) (fault : Fault), failure = .graph fault ∧ value.GivenIn arguments ∧
    value.dtype.computeCode?.isSome = true ∧ value.Withheld fault

theorem Unresolved.names {node : OperatorNode} {arguments : List Argument} {failure : Failure}
    (unresolved : Unresolved node (·.GivenIn arguments) failure) :
    failure.Names node ∨ failure.Withholds arguments := by
  cases unresolved with
  | contract broken => exact Or.inl ⟨_, rfl, nofun⟩
  | constant reason => exact Or.inl ⟨_, rfl, nofun⟩
  | literal value fault given typed withheld =>
      exact Or.inr ⟨value, fault, rfl, given, typed, withheld⟩

/-- Every failure of a conversion with the standard registry is an error that names the node, or
that of an index constant for an operand that is outsized, or that of a literal that is withheld. -/
theorem Registry.standard_fails (node : OperatorNode) (arguments : List Argument) (start : Context) :
    Ends (Registry.standard.convert node arguments) start (fun _ _ => True) fun failure _ =>
      failure.Names node ∨
      (failure = .graph .constantTooLarge ∧
        ∃ argument ∈ arguments, ∃ tensor, argument.Source tensor ∧ tensor.shape.Outsized) ∨
      failure.Withholds arguments := by
  refine (Registry.standard_ends node arguments start).mono (fun _ _ _ => trivial) ?_
  intro failure after fails
  cases fails with
  | unsupported => exact Or.inl ⟨_, rfl, nofun⟩
  | contract broken => exact Or.inl ⟨_, rfl, nofun⟩
  | unresolved _ _ fails => exact fails.names.imp_right Or.inr
  | halted operands middle _ _ sourced halts =>
      obtain ⟨⟨done, request, rest, opening, outputs, before, constants, _, _, stop⟩, _⟩ := halts
      cases stop with
      | rejected _ reason => exact Or.inl ⟨_, rfl, nofun⟩
      | shape _ product bias name => exact Or.inl ⟨_, rfl, nofun⟩
      | width gates place broken => exact Or.inl ⟨_, rfl, nofun⟩
      | tooLarge _ resolved reads oversized =>
          have member : request ∈ operands.opening := by
            rw [opening]
            exact List.mem_append_right _ List.mem_cons_self
          obtain ⟨tensor, listed, outsized⟩ :=
            CellOperands.outsized_of_oversized member reads oversized
          obtain ⟨argument, given, source⟩ := sourced tensor listed
          exact Or.inr (Or.inl ⟨rfl, argument, given, tensor, source, outsized⟩)

/-! ### Literals that are withheld -/

/-- Weights of a single stored element, repeated until their bytes are too many. -/
def Literal.endless : Literal :=
  { dtype := .float32, axes := [⟨0x1fffffffffffffff, 0⟩], storage := ⟨#[]⟩ }

/-- Zeros that cannot be read. -/
def Literal.behind (obstacle : Obstacle) (dims : List Nat) : Literal :=
  { Literal.zeros dims with obstacle := some obstacle }

/-- Arguments of a cell with given weights. -/
def Argument.weighing (inputWeights hiddenWeights : Argument) : List Argument :=
  [.tensor ⟨"x", [.size 2, .size 5], .float32⟩,
    .list [.tensor ⟨"h", [.size 2, .size 3], .float32⟩, .tensor ⟨"c", [.size 2, .size 3], .float32⟩],
    inputWeights, hiddenWeights]

/-- The node of the cell. -/
def OperatorNode.weighing : OperatorNode :=
  ⟨"cell", "aten::lstm_cell", ["x", "hx", "w", "r"], ["hy", "cy"]⟩

/-- A graph that owns the operands of the cell, its first weights aside. -/
def Context.weighing : Context :=
  ⟨Graph.empty.after
    [.addInput "x" [.size 2, .size 5] .float32, .addInput "h" [.size 2, .size 3] .float32,
      .addInput "c" [.size 2, .size 3] .float32, .addInput "r" [.size 12, .size 3] .float32],
    .empty, [], []⟩

/-- **Every failure of a conversion** with the standard registry is an error that names the node,
with two exceptions: an index constant is too large, which takes an operand that is outsized, or a
literal among the arguments is withheld. The first literal of a cell's arguments that is not
embedded, if it is withheld, does end the conversion that way. -/
theorem convert_names (node : OperatorNode) (arguments : List Argument) (start : Context) :
    Ends (Registry.standard.convert node arguments) start (fun _ _ => True) (fun failure _ =>
      failure.Names node ∨
      (failure = .graph .constantTooLarge ∧
        ∃ argument ∈ arguments, ∃ tensor, argument.Source tensor ∧ tensor.shape.Outsized) ∨
      failure.Withholds arguments) ∧
    ∀ (bound : List Argument) (before : List Literal) (value : Literal) (behind : List Literal)
      (fault : Fault), node.kind = lstmCellSignature.kind →
      lstmCellSignature.bindArguments node.outputs.length arguments = .ok bound →
      Argument.OfCell (fun _ => True) bound →
      Argument.literalsOf arguments = before ++ value :: behind →
      (∀ other ∈ before, other.Embeddable) →
      value.dtype.computeCode?.isSome = true → value.Withheld fault →
      ∃ after, Registry.standard.convert node arguments start = .error (.graph fault) after :=
  ⟨Registry.standard_fails node arguments start,
    fun _ _ _ _ _ kind binds form literals embeddable typed withheld =>
      Registry.convert_withheld kind binds form literals embeddable typed withheld start⟩

/-- The first weights are embedded, and the second, whose signs are turned, end the conversion. -/
theorem negated_weights_unnamed :
    ∃ after, Registry.standard.convert .weighing
      (Argument.weighing (.constant (.zeros [12, 5])) (.constant (.behind .negated [12, 3])))
      .weighing = .error (.graph (.unreadable .negated)) after := by
  have ofCell : Argument.OfCell (fun _ => True)
      (Argument.weighing (.constant (.zeros [12, 5])) (.constant (.behind .negated [12, 3])) ++
        [.absent, .absent]) :=
    ⟨.tensor _, ⟨_, _, rfl, .tensor _, .tensor _⟩, .constant _ trivial, .constant _ trivial,
      Or.inl rfl, Or.inl rfl⟩
  refine (convert_names .weighing _ .weighing).2 _ [.zeros [12, 5]] (.behind .negated [12, 3]) [] _
    rfl rfl ofCell rfl ?_ rfl (.unreadable .negated rfl)
  intro other member
  rw [List.mem_singleton.mp member]
  exact Literal.embeddable_zeros rfl

/-- **No error of the node**: all dimensions are far from 64 bits, and yet the conversion fails with
what is said of the literal. -/
theorem withheld_literals_unnamed :
    (∀ dim ∈ Literal.endless.dims ++ (Literal.behind (.layout "Sparse") [12, 5]).dims,
      (dim : Int) ≤ indexMax) ∧
    (∃ after, Registry.standard.convert .weighing
      (Argument.weighing (.constant .endless) (.tensor ⟨"r", [.size 12, .size 3], .float32⟩))
      .weighing = .error (.graph .bytesTooMany) after) ∧
    (∃ after, Registry.standard.convert .weighing
      (Argument.weighing (.constant (.behind (.layout "Sparse") [12, 5]))
        (.tensor ⟨"r", [.size 12, .size 3], .float32⟩))
      .weighing = .error (.graph (.unreadable (.layout "Sparse"))) after) ∧
    ∀ fault, ¬ (Failure.graph fault).Names .weighing := by
  refine ⟨by decide, ⟨_, rfl⟩, ⟨_, rfl⟩, ?_⟩
  rintro fault ⟨cause, named, _⟩
  cases named

end OperatorLowering
