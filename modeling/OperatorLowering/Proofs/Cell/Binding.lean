/-
**Binding the outputs of a cell is all or nothing.**

The new cell state is bound before the last two layers are made, but those are never refused. So a
lowering that fails leaves the bindings as they were, and one that returns has bound both outputs,
to two different new tensors of the graph. What can still fail behind the first product of two
tensors is the lookup of the node's second output, and nothing that is asked of the graph.

* `Registry.convert_bound`: no conversion with the standard registry leaves an output unbound;
* `lstmCell_binds_all_or_nothing`: the bindings after every run, and the consequence for conversions.
-/

import OperatorLowering.Proofs.Cell.Conversion
import OperatorLowering.Proofs.Cell.Layers

namespace OperatorLowering

/-! ### What is bound -/

namespace Completed

variable {fit : Prop} {node : OperatorNode} {operands : CellOperands} {start after : Context}
  {result : CellOutputs} {outputs : List Handle}

/-- The two results of a completed plan have different names. -/
theorem names_ne (completed : Completed node operands start result outputs after) :
    result.hidden.name ≠ result.cell.name := by
  intro same
  have cell : (outputs.map Handle.name)[operands.gatesIndex + 11]? = some result.cell.name := by
    rw [List.getElem?_map, completed.cell]
    rfl
  have hidden : (outputs.map Handle.name)[operands.gatesIndex + 13]? = some result.cell.name := by
    rw [List.getElem?_map, completed.hidden, ← same]
    rfl
  obtain ⟨inside, _⟩ := List.getElem?_eq_some_iff.mp cell
  have places := (List.getElem?_inj inside completed.follows.distinct).mp (cell.trans hidden.symm)
  omega

/-- Both results are new tensors of the graph. -/
theorem new (completed : Completed node operands start result outputs after) :
    ∀ tensor ∈ [result.hidden, result.cell],
      start.graph.tensors.contains tensor.name = false ∧ after.graph.owns tensor = true := by
  intro tensor member
  rcases List.mem_pair.mp member with rfl | rfl
  · exact completed.follows.enters (List.mem_of_getElem? completed.hidden)
  · exact completed.follows.enters (List.mem_of_getElem? completed.cell)

end Completed

/-! ### Behind the first product -/

/-- A lowering that halts in the opening of its plan has made no product of two tensors yet. -/
theorem products_of_halted {node : OperatorNode} {operands : CellOperands} {start graph : Graph}
    {failure : Failure} (halted : HaltedIn fit node start [] operands.opening failure graph)
    {layers : List Layer} (logged : graph.layers = start.layers ++ layers) :
    ∀ layer ∈ layers, layer.primitive ≠ .elementwise .product := by
  obtain ⟨made, request, rest, opening, stopped⟩ := halted
  obtain ⟨others, same, planned⟩ := stopped.layers
  obtain rfl : layers = others := List.append_cancel_left (logged.symm.trans same)
  refine Layer.primitive_ne_of_realized planned ?_
  intro planned member
  refine operands.primitive_of_mem_front ?_
  -- The opening is the front and one request, so what was made lies in the front.
  rcases List.eq_nil_or_concat rest with rfl | ⟨between, last, rfl⟩
  · rw [CellOperands.opening] at opening
    rw [(List.append_inj' opening rfl).1]
    exact member
  · rw [CellOperands.opening, List.concat_eq_append, ← List.cons_append, ← List.append_assoc]
      at opening
    rw [(List.append_inj' opening rfl).1]
    exact List.mem_append_left _ member

/-! ### Conversions -/

theorem Primitive.label_ne_binding (primitive : Primitive) :
    primitive.label ≠ "output binding" := by
  cases primitive with
  | matmul transposeFirst transposeSecond =>
      show "matrix multiplication" ≠ _
      decide
  | elementwise op => cases op <;> decide
  | slice offsets sizes strides =>
      show "slice" ≠ _
      decide
  | activation kind => cases kind <;> decide
  | reshape shape =>
      show "reshape" ≠ _
      decide

/-- The failure does not say that an output has no tensor bound to it. -/
def Failure.Bound (failure : Failure) : Prop :=
  ∀ error reason, failure = .conversion error → error.cause ≠ .lowering "output binding" reason

theorem Failure.bound_of_ne {node : OperatorNode} {cause : ConversionCause}
    (different : ∀ reason, cause ≠ .lowering "output binding" reason) :
    (Failure.ofNode node cause).Bound := by
  intro error reason fails
  cases fails
  exact different reason

theorem Unresolved.bound {node : OperatorNode} {held : Literal → Prop} {failure : Failure}
    (unresolved : Unresolved node held failure) : failure.Bound := by
  cases unresolved with
  | contract broken => exact Failure.bound_of_ne fun reason => by simp
  | constant reason => exact Failure.bound_of_ne fun reason => by simp
  | literal value fault given typed withheld =>
      rintro error reason ⟨⟩

theorem Missing.bound {node : OperatorNode} {request : Request Wire} {failure : Failure}
    (missing : Missing node request failure) : failure.Bound :=
  fun _ _ fails cause => request.primitive.label_ne_binding (missing.label fails cause).symm

/-- **No conversion with the standard registry** leaves an output unbound. -/
theorem Registry.convert_bound (node : OperatorNode) (arguments : List Argument)
    (context : Context) :
    Ends (Registry.standard.convert node arguments) context (fun _ _ => True)
      (fun failure _ => failure.Bound) := by
  refine (Registry.standard_ends node arguments context).mono (fun _ _ _ => trivial) ?_
  intro failure after fails
  cases fails with
  | unsupported => exact Failure.bound_of_ne fun reason => by simp
  | contract broken => exact Failure.bound_of_ne fun reason => by simp
  | unresolved _ _ fails => exact fails.bound
  | halted operands middle _ _ _ halts =>
      obtain ⟨⟨made, request, rest, _, _, _, _, _, _, stop⟩, _⟩ := halts
      exact stop.missing.bound

/-- **Binding is all or nothing.** A lowering of a cell that fails leaves all bindings as they were;
one that returns binds the second output of the node to the new cell state and then the first to the
new hidden state, which are two different new tensors of the graph. Where a product of two tensors
has been made, only the lookup of an output can still fail. So no conversion with the standard
registry finds an output unbound. -/
theorem lstmCell_binds_all_or_nothing (node : OperatorNode) (operands : CellOperands)
    (start : Context) :
    Ends (Lower.lstmCell node operands) start
      (fun result after =>
        (∃ cellValue hiddenValue, node.outputs[1]? = some cellValue ∧
          node.outputs[0]? = some hiddenValue ∧ after.bindings =
            (start.bindings.insert cellValue result.cell).insert hiddenValue result.hidden) ∧
        result.hidden ≠ result.cell ∧ ∀ tensor ∈ [result.hidden, result.cell],
          start.graph.tensors.contains tensor.name = false ∧ after.graph.owns tensor = true)
      (fun failure after => after.bindings = start.bindings ∧
        ∃ layers, after.graph.layers = start.graph.layers ++ layers ∧
          ((∃ layer ∈ layers, layer.primitive = .elementwise .product) →
            failure = .outOfRange .outputs)) ∧
    ∀ arguments error after,
      Registry.standard.convert node arguments start = .error (.conversion error) after →
        ∀ reason, error.cause ≠ .lowering "output binding" reason := by
  refine ⟨(Lower.lstmCell_ends node operands start).mono ?_ ?_, ?_⟩
  · rintro result after ⟨outputs, completed⟩
    exact ⟨completed.bound, fun same => completed.names_ne (congrArg Handle.name same),
      completed.new⟩
  · rintro failure after (⟨halted, unbound⟩ | ⟨outputs, unnamed⟩)
    · obtain ⟨made, request, rest, opening, stopped⟩ := halted
      obtain ⟨layers, logged, _⟩ := stopped.layers
      refine ⟨unbound, layers, logged, ?_⟩
      rintro ⟨layer, member, isProduct⟩
      exact absurd isProduct
        (products_of_halted ⟨made, request, rest, opening, stopped⟩ logged layer member)
    · obtain ⟨layers, logged, _⟩ := unnamed.follows.layers
      exact ⟨unnamed.unbound, layers, logged, fun _ => unnamed.failure⟩
  · intro arguments error after run reason
    exact (Registry.convert_bound node arguments start).error run error reason rfl

end OperatorLowering
