/-
**The layers of a cell.**

However a lowering of a cell ends, the layers it logged are those of a beginning of its plan, in
kind, attributes and wiring. They are the whole plan exactly if the lowering returns. If it fails,
the next request of the plan is the one that is missing, and a refused layer is named by its label.

* `lstmCell_follows_plan`: the layers of every run, and what a failure says of the missing one.
-/

import OperatorLowering.Proofs.Cell.Lowering

namespace OperatorLowering

/-- The layers before a halt are those of the requests before it. -/
theorem Halted.layers {fit : Prop} {node : OperatorNode} {start graph : Graph}
    {made : List (Request Wire)} {request : Request Wire} {failure : Failure}
    (halted : Halted fit node start made request failure graph) :
    ∃ layers, graph.layers = start.layers ++ layers ∧
      List.Forall₂ (Layer.Realizes layers) made layers := by
  obtain ⟨outputs, before, constants, follows, grows, _⟩ := halted
  obtain ⟨layers, logged, _, planned⟩ := follows.layers
  exact ⟨layers, by rw [grows.layers_of_constants, logged], planned⟩

/-- **Why a request of the plan is missing** after a failure. -/
inductive Missing (node : OperatorNode) : Request Wire → Failure → Prop
  /-- The graph rejected it, and the failure names its label. -/
  | rejected (request : Request Wire) (reason : Rejection) :
      Missing node request
        (.ofNode node (.lowering request.primitive.label (some (.rejected reason))))
  /-- A constant for it would have held too large an integer. -/
  | tooLarge (request : Request Wire)
      (indexed : request.primitive.kind = .slice ∨ request.primitive.kind = .reshape) :
      Missing node request (.graph .constantTooLarge)
  /-- It is the first for a bias that does not broadcast. -/
  | shape (request : Request Wire) (bias : Handle) (name : String) (expected : Shape)
      (reads : .tensor bias ∈ request.operands)
      (wider : expected.absorbs bias.shape = false) :
      Missing node request (.ofNode node (.shape name expected bias.shape))
  /-- It is the first slice of pre-activations without four equal known quarters. -/
  | width (gates : Shape) (place : Nat) (broken : Precondition)
      (unquartered : gates.Unquartered broken) :
      Missing node (gates.gateRequest (.layer place) 0) (.ofNode node (.precondition broken))
  /-- It is the activation of a cell state that the node has no output for. -/
  | unnamed (place : Nat) (short : node.outputs.length < 2) :
      Missing node (.activation (.layer place) .tanh) (.outOfRange .outputs)

theorem Stop.missing {fit : Prop} {node : OperatorNode} {outputs : List Handle} {graph : Graph}
    {request : Request Wire} {failure : Failure}
    (stop : Stop fit node outputs graph request failure) : Missing node request failure := by
  cases stop with
  | rejected request reason blocked => exact .rejected request reason
  | tooLarge request resolved reads oversized =>
      have indexed := oversized.indexed
      rw [Request.primitive_map, (Request.traverse_eq_some reads).1] at indexed
      exact .tooLarge request indexed
  | shape request product bias name reads last wider _ => exact .shape request bias name _ reads wider
  | width gates place broken last unquartered _ => exact .width gates.shape place broken unquartered

/-- A failure to make a layer names the layer that is missing. -/
theorem Missing.label {node : OperatorNode} {request : Request Wire} {failure : Failure}
    (missing : Missing node request failure) {error : ConversionError} {label : String}
    {reason : Option LoweringReason} (fails : failure = .conversion error)
    (cause : error.cause = .lowering label reason) : label = request.primitive.label := by
  cases missing with
  | rejected request reason =>
      cases fails
      cases cause
      rfl
  | tooLarge request indexed => cases fails
  | shape request bias name expected reads wider =>
      cases fails
      cases cause
  | width gates place broken unquartered =>
      cases fails
      cases cause
  | unnamed place short => cases fails

/-- What holds of the layers that realize requests. -/
theorem Layer.primitive_ne_of_realized {layers made : List Layer} {plan : List (Request Wire)}
    {primitive : Primitive} (planned : List.Forall₂ (Layer.Realizes layers) plan made)
    (absent : ∀ request ∈ plan, request.primitive ≠ primitive) :
    ∀ layer ∈ made, layer.primitive ≠ primitive := by
  induction planned with
  | nil => exact fun layer member => (by cases member)
  | cons realizes _ ih =>
      intro layer member
      rcases List.mem_cons.mp member with rfl | later
      · rw [realizes.1]
        exact absent _ List.mem_cons_self
      · exact ih (fun request other => absent request (List.mem_cons_of_mem _ other)) layer later

/-- The layers that combine two tensors to their product. -/
def Layer.products (layers : List Layer) : List Layer :=
  layers.filter fun layer => layer.primitive = .elementwise .product

/-- **The third and the fourth product** of a completed plan are the new cell state and the new
hidden state. -/
theorem Completed.layers {node : OperatorNode} {operands : CellOperands} {start after : Context}
    {result : CellOutputs} {outputs : List Handle}
    (completed : Completed node operands start result outputs after) :
    ∃ layers, after.graph.layers = start.graph.layers ++ layers ∧
      List.Forall₂ (Layer.Realizes layers) operands.plan layers ∧
        ∃ kept entered, (Layer.products layers).map Layer.output =
          [kept, entered, result.cell.name, result.hidden.name] := by
  obtain ⟨layers, logged, named, planned⟩ := completed.follows.layers
  refine ⟨layers, logged, planned, ?_⟩
  let rest : List (Request Wire) :=
    [CellOperands.kept operands.state.cell operands.gatesIndex] ++
      CellOperands.entering operands.gatesIndex ++ CellOperands.exposing operands.gatesIndex
  have split : operands.plan = operands.front ++ rest := by
    simp only [CellOperands.plan, CellOperands.opening, rest, List.append_assoc]
  have flipped : List.Forall₂ (fun layer request => Layer.Realizes layers request layer) layers
      (operands.front ++ rest) := by
    rw [← split]
    exact planned.flip
  have front := (List.forall₂_take_append layers operands.front rest flipped).flip
  have back := List.forall₂_drop_append layers operands.front rest flipped
  have whole := List.take_append_drop operands.front.length layers
  have long : (layers.take operands.front.length).length = operands.front.length :=
    front.length_eq.symm
  generalize layers.take operands.front.length = first at front whole long
  generalize layers.drop operands.front.length = second at back whole
  obtain ⟨kept, _, isKept, behindKept, rfl⟩ := List.forall₂_cons_right_iff.mp back
  obtain ⟨entered, _, isEntered, behindEntered, rfl⟩ := List.forall₂_cons_right_iff.mp behindKept
  obtain ⟨updated, _, isUpdated, behindUpdated, rfl⟩ := List.forall₂_cons_right_iff.mp behindEntered
  obtain ⟨squashed, _, isSquashed, behindSquashed, rfl⟩ := List.forall₂_cons_right_iff.mp behindUpdated
  obtain ⟨exposed, _, isExposed, behindExposed, rfl⟩ := List.forall₂_cons_right_iff.mp behindSquashed
  obtain rfl := List.forall₂_nil_right_iff.mp behindExposed
  have none : Layer.products first = [] :=
    List.filter_eq_nil_iff.mpr fun layer member => by
      simpa using Layer.primitive_ne_of_realized front
        (fun _ => operands.primitive_of_mem_front) layer member
  have products : Layer.products [kept, entered, updated, squashed, exposed] =
      [kept, entered, updated, exposed] := by
    simp [Layer.products, isKept.1, isEntered.1, isUpdated.1, isSquashed.1, isExposed.1,
      CellOperands.kept, Request.primitive]
  -- The layer at a place has the name of the output there.
  have outputAt (offset : Nat) (output : Handle)
      (found : outputs[operands.gatesIndex + 9 + offset]? = some output) :
      [kept, entered, updated, squashed, exposed][offset]?.map Layer.output = some output.name := by
    have listed : (layers.map Layer.output)[operands.gatesIndex + 9 + offset]? =
        some output.name := by
      rw [named, List.getElem?_map, found]
      rfl
    rw [← whole, List.getElem?_map, ← operands.length_front, ← long,
      List.getElem?_append_right (Nat.le_add_right _ _), Nat.add_sub_cancel_left] at listed
    exact listed
  have cell := outputAt 2 result.cell completed.cell
  have hidden := outputAt 4 result.hidden completed.hidden
  simp only [List.getElem?_cons_succ, List.getElem?_cons_zero, Option.map_some,
    Option.some.injEq] at cell hidden
  refine ⟨kept.output, entered.output, ?_⟩
  rw [← whole, Layer.products, List.filter_append]
  show (Layer.products first ++ Layer.products _).map Layer.output = _
  rw [none, products, List.nil_append, ← cell, ← hidden]
  rfl

/-- **The layers of every run** are those of a beginning of the plan. They are the whole plan if the
run returns, and then the third product is the new cell state and the fourth the new hidden state.
If it fails, a request of the plan is missing; where the failure names a layer, it is the label of
that request. -/
theorem lstmCell_follows_plan (node : OperatorNode) (operands : CellOperands) (start : Context) :
    Ends (Lower.lstmCell node operands) start
      (fun result after => ∃ layers, after.graph.layers = start.graph.layers ++ layers ∧
        List.Forall₂ (Layer.Realizes layers) operands.plan layers ∧
          ∃ kept entered, (Layer.products layers).map Layer.output =
            [kept, entered, result.cell.name, result.hidden.name])
      (fun failure after => ∃ layers made request rest,
        after.graph.layers = start.graph.layers ++ layers ∧
        operands.plan = made ++ request :: rest ∧
        List.Forall₂ (Layer.Realizes layers) made layers ∧ Missing node request failure ∧
          ∀ error label reason, failure = .conversion error →
            error.cause = .lowering label reason → label = request.primitive.label) := by
  refine (Lower.lstmCell_ends node operands start).mono ?_ ?_
  · rintro result after ⟨outputs, completed⟩
    exact completed.layers
  · rintro failure after (⟨⟨made, request, rest, opening, halted⟩, _⟩ | ⟨outputs, unnamed⟩)
    · obtain ⟨layers, logged, planned⟩ := halted.layers
      obtain ⟨_, _, _, _, _, stop⟩ := halted
      refine ⟨layers, made, request, rest ++ CellOperands.entering operands.gatesIndex ++
        CellOperands.exposing operands.gatesIndex, logged, ?_, planned, stop.missing,
          fun error label reason => stop.missing.label⟩
      rw [CellOperands.plan, opening]
      simp only [List.append_assoc, List.cons_append]
    · obtain ⟨layers, logged, _, planned⟩ := unnamed.follows.layers
      have missing : Missing node (.activation (.layer (operands.gatesIndex + 11)) .tanh)
          failure := by
        rw [unnamed.failure]
        exact .unnamed _ unnamed.short
      exact ⟨layers, _, _, _, logged, rfl, planned, missing, fun error label reason =>
        missing.label⟩

end OperatorLowering
