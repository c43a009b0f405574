/-
**One step of a cell, as planned.**

The lowering of a cell walks along its plan. It may halt at any request up to the product of the
forget gate and the old cell state; behind that all operands are the graph's own, of one type, and
of shapes that combine, so nothing is refused any more (`Lower.finish_ends`). What is left to fail
is a node without a second output.

A lowering halts only for what it looks at itself or for what the graph refuses. So if its operands
are fit for each other and the graph's own, and the types of the whole plan are right, it completes
its plan for every node that names two outputs.

* `Lower.lstmCell_ends`: how every run of the lowering ends;
* `lstmCell_completes`: when it returns.
-/

import OperatorLowering.Proofs.Cell.Gates

namespace OperatorLowering

/-- A lowering that came to its end: its operands are fit for each other, it followed the
whole plan, and the outputs of the node are bound to the new cell state and then to the new
hidden state. -/
structure Completed (node : OperatorNode) (operands : CellOperands) (start : Context)
    (result : CellOutputs) (outputs : List Handle) (after : Context) : Prop where
  fit : operands.Fit
  follows : Follows start.graph operands.plan outputs after.graph
  cell : outputs[operands.gatesIndex + 11]? = some result.cell
  hidden : outputs[operands.gatesIndex + 13]? = some result.hidden
  bound : ∃ cellValue hiddenValue, node.outputs[1]? = some cellValue ∧
    node.outputs[0]? = some hiddenValue ∧
      after.bindings =
        (start.bindings.insert cellValue result.cell).insert hiddenValue result.hidden

/-- A lowering that stopped for want of an output to bind the new cell state to. -/
structure Unnamed (node : OperatorNode) (operands : CellOperands) (start : Context)
    (failure : Failure) (outputs : List Handle) (after : Context) : Prop where
  failure : failure = .outOfRange .outputs
  short : node.outputs.length < 2
  follows : Follows start.graph
    (operands.opening ++ CellOperands.entering operands.gatesIndex) outputs after.graph
  unbound : after.bindings = start.bindings

namespace Lower

variable {node : OperatorNode} {start context : Context} {made : List (Request Wire)}
  {outputs : List Handle}

/-! ### What cannot be refused -/

/-- The tensors that a walk put out belong to its graph. -/
theorem owns_of_walked (walked : Walked start made outputs context) {tensor : Handle}
    (member : tensor ∈ outputs) : context.graph.owns tensor = true :=
  (walked.follows.enters member).2

/-- The product of two earlier outputs whose types combine. -/
theorem product_ends {failed : Failure → Context → Prop} {base rest : List Handle} (i j : Nat)
    {a b : Handle} {type : TensorType} (walked : Walked start made (base ++ rest) context)
    (readA : rest[i]? = some a) (readB : rest[j]? = some b)
    (typed : (Request.elementwise a.type b.type .product).type? = some type) :
    Ends (product node a b) context
      (fun output after => Walked start
        (made ++ [.elementwise (.layer (base.length + i)) (.layer (base.length + j)) .product])
        (base ++ (rest ++ [output])) after ∧ output.type = type) failed := by
  have owned : ∀ tensor ∈ (Request.elementwise a b .product).operands,
      context.graph.owns tensor = true := by
    intro tensor member
    rcases List.mem_pair.mp member with rfl | rfl
    · exact owns_of_walked walked (List.mem_append_right base (List.mem_of_getElem? readA))
    · exact owns_of_walked walked (List.mem_append_right base (List.mem_of_getElem? readB))
  simp only [← List.append_assoc base rest]
  exact accepted_ends "elementwise product" walked
    (Request.traverse_layers id i j .product readA readB) owned typed

/-- The hyperbolic tangent of an earlier output. -/
theorem squashed_ends {failed : Failure → Context → Prop} {base rest : List Handle} (i : Nat)
    {a : Handle} (walked : Walked start made (base ++ rest) context) (read : rest[i]? = some a) :
    Ends (checked node "tanh activation" (build (Build.activation a Activation.tanh))) context
      (fun output after => Walked start (made ++ [.activation (.layer (base.length + i)) .tanh])
        (base ++ (rest ++ [output])) after ∧ output.type = a.type) failed := by
  have owned : ∀ tensor ∈ (Request.activation a .tanh).operands,
      context.graph.owns tensor = true := by
    intro tensor member
    rw [List.mem_singleton.mp member]
    exact owns_of_walked walked (List.mem_append_right base (List.mem_of_getElem? read))
  simp only [← List.append_assoc base rest]
  exact accepted_ends "tanh activation" walked (Request.traverse_layer id i .tanh read) owned rfl

/-! ### The outputs of the node -/

theorem outputAt_run_some {position : Nat} {value : String}
    (named : node.outputs[position]? = some value) (context : Context) :
    outputAt node position context = .ok value context := by
  unfold outputAt
  rw [named]
  rfl

theorem outputAt_run_none {position : Nat} (unnamed : node.outputs[position]? = none)
    (context : Context) :
    outputAt node position context = .error (.outOfRange .outputs) context := by
  unfold outputAt
  rw [unnamed]
  rfl

theorem associate_ends {failed : Failure → Context → Prop} (value : String) (tensor : Handle)
    (walked : Walked start made outputs context) :
    Ends (associate value tensor) context
      (fun result after => result = tensor ∧
        Walked { start with bindings := start.bindings.insert value tensor } made outputs after)
      failed := by
  refine Ends.of_ok rfl ⟨rfl, walked.follows, ?_⟩
  rw [← walked.unbound]

/-! ### The rest of a step -/

/-- The rest of a step, once it is settled what is kept of the cell state. -/
def finish (node : OperatorNode) (gates : GateTensors) (kept : Handle) : Lower CellOutputs := do
  let entered ← product node gates.input gates.cell
  let updated ← product node kept entered
  let cell ← associate (← outputAt node 1) updated
  let squashed ← checked node "tanh activation" (build (Build.activation cell Activation.tanh))
  let exposed ← product node gates.output squashed
  let hidden ← associate (← outputAt node 0) exposed
  return ⟨hidden, cell⟩

/-- **The rest of a step is never refused**: it completes the plan, or the node has no second
output. -/
theorem finish_ends {operands : CellOperands} {base : List Handle} {gates : GateTensors}
    {all one two three four kept : Handle} {type other : TensorType}
    (walked : Walked start operands.opening (base ++ [all, one, gates.input, two, gates.forget,
      three, gates.cell, four, gates.output, kept]) context)
    (fit : operands.Fit) (index : base.length = operands.gatesIndex)
    (inputType : gates.input.type = type) (cellType : gates.cell.type = type)
    (outputType : gates.output.type = type)
    (keptType : (Request.elementwise type other .product).type? = some kept.type) :
    Ends (finish node gates kept) context
      (fun result after => ∃ outputs, Completed node operands start result outputs after)
      (fun failure after => ∃ outputs, Unnamed node operands start failure outputs after) := by
  obtain ⟨gateThenKept, keptThenGate⟩ := Request.type?_elementwise_again .product keptType
  have enters : (Request.elementwise gates.input.type gates.cell.type .product).type? =
      some type := by
    rw [inputType, cellType]
    exact Request.type?_elementwise_self type .product
  unfold finish
  refine (product_ends 2 6 walked rfl rfl enters).bind fun entered after ends => ?_
  obtain ⟨walked, enteredType⟩ := ends
  have updates : (Request.elementwise kept.type entered.type .product).type? =
      some kept.type := by
    rwa [enteredType]
  refine (product_ends 9 10 walked rfl rfl updates).bind fun updated after ends => ?_
  obtain ⟨walked, updatedType⟩ := ends
  rw [List.append_assoc operands.opening, index] at walked
  -- Only now is a second output of the node needed.
  cases named : node.outputs[1]? with
  | none =>
      exact Ends.of_error (bind_run_error (outputAt_run_none named after))
        ⟨_, rfl, Nat.lt_succ_of_le (List.getElem?_eq_none_iff.mp named), walked.follows,
          walked.unbound⟩
  | some cellValue =>
      obtain ⟨hiddenValue, first⟩ : ∃ value, node.outputs[0]? = some value :=
        ⟨_, List.getElem?_eq_getElem
          (Nat.lt_trans Nat.zero_lt_one (List.getElem?_eq_some_iff.mp named).1)⟩
      refine Ends.after_ok (outputAt_run_some named after) ?_
      refine (associate_ends cellValue updated walked).bind fun cell after ends => ?_
      obtain ⟨rfl, walked⟩ := ends
      refine (squashed_ends 11 walked rfl).bind fun squashed after ends => ?_
      obtain ⟨walked, squashedType⟩ := ends
      have exposes : (Request.elementwise gates.output.type squashed.type .product).type? =
          some kept.type := by
        rwa [outputType, squashedType, updatedType]
      refine (product_ends 8 12 walked rfl rfl exposes).bind fun exposed after ends => ?_
      obtain ⟨walked, _⟩ := ends
      rw [List.append_assoc (operands.opening ++ _), index] at walked
      refine Ends.after_ok (outputAt_run_some first after) ?_
      refine (associate_ends hiddenValue exposed walked).bind fun hidden after ends => ?_
      obtain ⟨rfl, walked⟩ := ends
      refine Ends.pure ⟨_, fit, walked.follows, ?_, ?_, cellValue, hiddenValue, named, first,
        walked.unbound⟩
      · rw [← index]
        exact Wire.read_offset id base _ 11
      · rw [← index]
        exact Wire.read_offset id base _ 13

/-! ### The whole step -/

/-- **Every run of the lowering of a cell** completes its plan, halts in its opening, or stops for
want of a second output. -/
theorem lstmCell_ends (node : OperatorNode) (operands : CellOperands) (start : Context) :
    Ends (lstmCell node operands) start
      (fun result after => ∃ outputs, Completed node operands start result outputs after)
      (fun failure after => HaltedWith operands.Fit node start [] operands.opening failure after ∨
        ∃ outputs, Unnamed node operands start failure outputs after) := by
  have opening : operands.opening = operands.inputHalf ++ (operands.hiddenHalf ++
      ([operands.total] ++ (CellOperands.gates operands.gatesShape operands.gatesIndex ++
        [CellOperands.kept operands.state.cell operands.gatesIndex]))) := by
    simp only [CellOperands.opening, CellOperands.front, List.append_assoc]
  have walked : Walked start [] [] start := ⟨.start, rfl⟩
  rw [opening]
  unfold lstmCell
  refine segments_or_ends (weighted_ends walked operands.input operands.inputWeights
    operands.inputBias "b_ih" CellOperands.Fit.input) fun fromInput one ends => ?_
  obtain ⟨before, walked, inputType, inputFits⟩ := ends
  replace walked : Walked start operands.inputHalf (before ++ [fromInput]) one := walked
  have inputCount : (before ++ [fromInput]).length = operands.inputHalf.length :=
    walked.follows.length
  have fromHiddenEnds := @weighted_ends _ node _ _ _ _ walked operands.state.hidden
    operands.hiddenWeights operands.hiddenBias "b_hh" CellOperands.Fit.hidden
  rw [inputCount] at fromHiddenEnds
  refine segments_or_ends fromHiddenEnds fun fromHidden two ends => ?_
  obtain ⟨between, walked, hiddenType, hiddenFits⟩ := ends
  have bothCount : (before ++ [fromInput] ++ between ++ [fromHidden]).length =
      operands.gatesIndex := by
    rw [walked.follows.length]
    exact List.length_append
  refine segments_or_ends
    (request_ends walked (operands.traverse_total id inputCount bothCount)) fun all three ends => ?_
  obtain ⟨walked, allType⟩ := ends
  have gatesType : operands.gatesType? = some all.type := by
    unfold CellOperands.gatesType?
    rw [inputType, hiddenType]
    exact allType
  have gatesShape : operands.gatesShape = all.shape := by
    rw [CellOperands.gatesShape, gatesType]
    rfl
  have ranked : all.shape ≠ [] := ranked_of_gatesType? gatesType
  have gatesEnd := @splitGates_ends _ node _ _ _ _ _ walked ranked
    fun fit : operands.Fit => fun broken => fit.quarters all.type broken gatesType
  rw [bothCount, ← gatesShape] at gatesEnd
  refine segments_or_ends gatesEnd fun gates four ends => ?_
  obtain ⟨chunk, chunk', chunk'', last, walked, inputGate, forgetGate, cellGate, outputGate,
    quartered⟩ := ends
  have fit : operands.Fit := by
    refine ⟨inputFits, hiddenFits, ?_⟩
    intro type broken typed
    rw [gatesType] at typed
    cases typed
    rw [gatesShape] at quartered
    exact quartered broken
  replace walked : Walked start (operands.inputHalf ++ operands.hiddenHalf ++ [operands.total] ++
      CellOperands.gates operands.gatesShape operands.gatesIndex)
      (before ++ [fromInput] ++ between ++ [fromHidden] ++ [all, chunk, gates.input, chunk',
        gates.forget, chunk'', gates.cell, last, gates.output]) four := walked
  have readsKept : (CellOperands.kept operands.state.cell operands.gatesIndex).traverse
      (Wire.read id (before ++ [fromInput] ++ between ++ [fromHidden] ++ [all, chunk, gates.input,
        chunk', gates.forget, chunk'', gates.cell, last, gates.output])) =
          some (.elementwise gates.forget operands.state.cell .product) := by
    rw [← bothCount]
    exact CellOperands.traverse_kept id operands.state.cell rfl
  refine Ends.bind ((request_ends walked readsKept).mono (fun _ _ => id) fun _ _ => Or.inl)
    fun kept five ends => ?_
  obtain ⟨walked, keptType⟩ := ends
  -- What is kept has the gates' type, broadcast to the cell state.
  replace keptType : (Request.elementwise gates.forget.type operands.state.cell.type
      .product).type? = some kept.type := keptType
  rw [forgetGate] at keptType
  rw [List.append_assoc _ _ [kept]] at walked
  exact (finish_ends walked fit bothCount inputGate cellGate outputGate keptType).mono
    (fun _ _ => id) fun _ _ => Or.inr

end Lower

/-! ### When the lowering returns -/

namespace CellOperands

/-- The tensors that one step works on. -/
def tensors (operands : CellOperands) : List Handle :=
  [operands.input, operands.state.hidden, operands.state.cell, operands.inputWeights,
    operands.hiddenWeights] ++ operands.inputBias.toList ++ operands.hiddenBias.toList

/-- The tensors of half of the pre-activations. -/
theorem mem_tensors_of_half {operand weights handle : Handle} {bias : Option Handle} {index : Nat}
    {request : Request Wire} (member : request ∈ half operand weights bias index)
    (wired : .tensor handle ∈ request.operands) :
    handle = operand ∨ handle = weights ∨ handle ∈ bias.toList := by
  rcases cases_of_mem_half member with rfl | ⟨given, isBias, summed⟩
  · simp only [Request.operands, List.mem_cons, List.not_mem_nil, or_false, Wire.tensor.injEq]
      at wired
    exact wired.imp_right Or.inl
  · rcases Wire.mem_withBias summed wired with layer | rfl
    · cases layer
    · exact Or.inr (Or.inr isBias)

/-- **The tensors of the plan** are those that the step works on. -/
theorem mem_tensors_of_plan {operands : CellOperands} {request : Request Wire} {handle : Handle}
    (member : request ∈ operands.plan) (wired : .tensor handle ∈ request.operands) :
    handle ∈ operands.tensors := by
  simp only [plan, opening, front, List.mem_append, List.mem_singleton] at member
  simp only [tensors, List.mem_append, List.mem_cons, List.not_mem_nil, or_false]
  rcases member with (((((input | hidden) | rfl) | gate) | rfl) | entering) | exposing
  · rcases mem_tensors_of_half input wired with rfl | rfl | bias <;> simp_all
  · rcases mem_tensors_of_half hidden wired with rfl | rfl | bias <;> simp_all
  · simp [total, Request.operands] at wired
  · rcases cases_of_mem_gates gate with ⟨_, _, rfl⟩ | ⟨_, _, rfl⟩ <;>
      simp [Shape.gateRequest, Request.operands] at wired
  · simp [kept, Request.operands] at wired
    exact Or.inl (Or.inl (Or.inr (Or.inr (Or.inl wired))))
  · simp only [CellOperands.entering, List.mem_cons, List.not_mem_nil, or_false] at entering
    rcases entering with rfl | rfl <;> simp [Request.operands] at wired
  · simp only [CellOperands.exposing, List.mem_cons, List.not_mem_nil, or_false] at exposing
    rcases exposing with rfl | rfl <;> simp [Request.operands] at wired

end CellOperands

/-- Operands that are fit leave only the graph to refuse a request. -/
theorem Stop.blocked {fit : Prop} {node : OperatorNode} {outputs : List Handle} {graph : Graph}
    {request : Request Wire} {failure : Failure}
    (stop : Stop fit node outputs graph request failure) (holds : fit) :
    request.Blocked outputs graph := by
  cases stop with
  | rejected request reason blocked => exact blocked
  | tooLarge request resolved reads oversized => exact ⟨resolved, reads, Or.inr oversized.untyped⟩
  | shape request product bias name reads last wider unfit => exact absurd holds unfit
  | width gates place broken last unquartered unfit => exact absurd holds unfit

/-- **A lowering of fit operands returns** if they are the graph's own, the types of the plan are
right and the node names two outputs. -/
theorem lstmCell_completes {node : OperatorNode} {operands : CellOperands} {start : Context}
    {types : List TensorType} (fit : operands.Fit)
    (owned : ∀ tensor ∈ operands.tensors, start.graph.owns tensor = true)
    (typed : Plan.pass Request.type? Handle.type [] operands.plan = some types)
    (named : 2 ≤ node.outputs.length) :
    ∃ result after outputs, Lower.lstmCell node operands start = .ok result after ∧
      Completed node operands start result outputs after := by
  have ends := Lower.lstmCell_ends node operands start
  cases run : Lower.lstmCell node operands start with
  | ok result after =>
      obtain ⟨outputs, completed⟩ := ends.ok run
      exact ⟨result, after, outputs, rfl, completed⟩
  | error failure after =>
      rcases ends.error run with ⟨halted, _⟩ | ⟨outputs, unnamed⟩
      · obtain ⟨made, request, rest, opening, outputs, before, _, follows, _, stop⟩ := halted
        have plan : operands.plan = made ++ request :: (rest ++
            CellOperands.entering operands.gatesIndex ++
              CellOperands.exposing operands.gatesIndex) := by
          rw [CellOperands.plan, opening]
          simp only [List.append_assoc, List.cons_append]
        have planned : request ∈ operands.plan := by
          rw [plan]
          exact List.mem_append_right made List.mem_cons_self
        have ours : start.graph.OwnsTensorsOf [request] := by
          intro other member handle wired
          rw [List.mem_singleton.mp member] at wired
          exact owned handle (CellOperands.mem_tensors_of_plan planned wired)
        rw [plan] at typed
        exact absurd (stop.blocked fit) (follows.not_blocked ours typed)
      · exact absurd unnamed.short (Nat.not_lt_of_le named)

end OperatorLowering
