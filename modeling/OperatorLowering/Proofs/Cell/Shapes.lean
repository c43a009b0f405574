/-
**A lowered cell is well-shaped.**

A graph that follows a plan of steady requests grows by well-shaped nodes, whatever sizes the
symbols stand for. All requests of a cell's plan are steady: gates take the other axes whole, and a
bias is only padded. So the backend infers the declared shapes for every node of a converted cell.

* `Follows.wellShaped`: the nodes of a followed plan;
* `convert_wellShaped`: the nodes of a converted cell.
-/

import OperatorLowering.Proofs.Cell.Conversion
import OperatorLowering.Proofs.Cell.Meaning
import OperatorLowering.Proofs.Cell.Types
import OperatorLowering.Proofs.Lowering.Reachable
import OperatorLowering.Proofs.Meaning.Nodes
import OperatorLowering.Proofs.Meaning.Plan

namespace OperatorLowering

variable {sizes : String → Nat}

/-- The type of a steady request. -/
def Request.steadyType? (request : Request TensorType) : Option TensorType :=
  if request.steady then request.type? else none

theorem Request.steadyType?_eq_some {request : Request TensorType} {type : TensorType} :
    request.steadyType? = some type ↔ request.steady = true ∧ request.type? = some type := by
  unfold steadyType?
  by_cases steady : request.steady = true
  · rw [if_pos steady, and_iff_right steady]
  · rw [if_neg steady]
    exact iff_of_false nofun fun holds => steady holds.1

theorem Request.agrees_steadyType? : Request.Agrees Request.steadyType? :=
  fun _ steady => if_pos steady

/-- A pass is made as well with a step that answers more. -/
theorem Plan.pass_mono {Value : Type} {step other : Request Value → Option Value}
    {base : Handle → Value} {made all : List Value} {plan : List (Request Wire)}
    (answers : ∀ request value, step request = some value → other request = some value)
    (passed : pass step base made plan = some all) : pass other base made plan = some all := by
  induction plan generalizing made with
  | nil => exact passed
  | cons request rest ih =>
      obtain ⟨resolved, reads, passed⟩ := Option.bind_eq_some_iff.mp passed
      obtain ⟨value, steps, passed⟩ := Option.bind_eq_some_iff.mp passed
      rw [pass_cons reads (answers resolved value steps)]
      exact ih passed

/-- **A followed plan** of steady requests adds well-shaped nodes. -/
theorem Follows.wellShaped (inRange : SizesInRange sizes) {start graph later : Graph}
    {plan : List (Request Wire)} {outputs : List Handle} {types : List TensorType}
    (follows : Follows start plan outputs graph) (keeps : graph.Grown later)
    (single : later.SingleAssignment)
    (steady : Plan.pass Request.steadyType? Handle.type [] plan = some types) :
    ∀ node ∈ graph.nodes.drop start.nodes.length, node.WellShaped later sizes := by
  induction follows generalizing types with
  | start =>
      rw [List.drop_length]
      exact nofun
  | @accept plan outputs before request resolved last grown follows reads accepted ih =>
      obtain ⟨earlier, known, type, first, readsTypes, steps, _⟩ := Plan.pass_concat steady
      obtain ⟨steadyKnown, _⟩ := Request.steadyType?_eq_some.mp steps
      -- What the pass has told so far are the types of the outputs.
      have told : earlier = outputs.map Handle.type := by
        have typed := Plan.pass_mono
          (fun _ _ holds => (Request.steadyType?_eq_some.mp holds).2) first
        exact Option.some.inj (typed.symm.trans follows.types)
      rw [told, Follows.traverse_types reads] at readsTypes
      rw [← Option.some.inj readsTypes] at steadyKnown
      obtain ⟨prior, growsPrior⟩ := follows.grown
      obtain ⟨additions, adds, grows⟩ := accepted.grows
      have added : grown.nodes.drop start.nodes.length =
          before.nodes.drop start.nodes.length ++ additions.filterMap Addition.node? := by
        rw [(growsPrior.trans grows).drop_nodes, growsPrior.drop_nodes, List.filterMap_append]
      rw [added]
      intro node member
      rcases List.mem_append.mp member with old | new
      · exact ih (Graph.Grown.trans ⟨additions, grows⟩ keeps) first node old
      · exact Request.wellShaped_of_adds inRange adds grows keeps single accepted.owned
          accepted.typed (Request.runsUnder_of_steady steadyKnown) node new

/-- The plan of a completed lowering is steady. -/
theorem Completed.steady {node : OperatorNode} {operands : CellOperands} {start after : Context}
    {result : CellOutputs} {outputs : List Handle}
    (completed : Completed node operands start result outputs after) :
    ∃ types, Plan.pass Request.steadyType? Handle.type [] operands.plan = some types := by
  obtain ⟨fromInput, fromHidden, total, lead, width, type, carries, _⟩ :=
    (CellOperands.pass_plan Request.agrees_type? completed.fit).mp completed.follows.types
  exact ⟨_, (CellOperands.pass_plan Request.agrees_steadyType? completed.fit).mpr
    ⟨fromInput, fromHidden, total, lead, width, type, carries, rfl⟩⟩

/-- **A converted cell is well-shaped.** Whatever sizes in range the symbols stand for, the shape
rule of every node that a conversion has added, for what the graph declares of its operands, gives
what the graph declares of its output. -/
theorem convert_wellShaped {node : OperatorNode} {arguments : List Argument} {start after : Context}
    {outputs : NameTable Handle} (reached : Graph.empty.Reaches start.graph)
    (inRange : SizesInRange sizes)
    (converted : Registry.standard.convert node arguments start = .ok outputs after) :
    ∀ made ∈ after.graph.nodes.drop start.graph.nodes.length,
      made.WellShaped after.graph sizes := by
  obtain ⟨operands, middle, result, handles, _, ⟨constants, resolved⟩, completed⟩ :=
    (Registry.standard_ends node arguments start).ok converted
  have single : after.graph.SingleAssignment := by
    obtain ⟨additions, grows⟩ := reached.grown.trans
      (Graph.Grown.trans ⟨_, resolved⟩ completed.follows.grown)
    exact .of_grows grows .empty
  -- Resolving the arguments has added constants alone.
  have nodes : middle.graph.nodes = start.graph.nodes := by
    have none : (constants.map Addition.constant).filterMap Addition.node? = [] := by
      rw [List.filterMap_map]
      exact List.filterMap_eq_nil_iff.mpr fun _ _ => rfl
    rw [resolved.nodes, none, List.append_nil]
  obtain ⟨types, steady⟩ := completed.steady
  rw [← nodes]
  exact completed.follows.wellShaped inRange (.refl _) single steady

/-! ### A small cell -/

/-- Arguments of a node that are resolved to these operands. -/
def CellOperands.toArguments (operands : CellOperands) : List Argument :=
  [.tensor operands.input, .list [.tensor operands.state.hidden, .boxed operands.state.cell],
    .tensor operands.inputWeights, .tensor operands.hiddenWeights,
    operands.inputBias.elim .absent .tensor, operands.hiddenBias.elim .absent .tensor]

/-- The small cell is converted to twenty nodes that are well-shaped for batches of two. -/
theorem convert_wellShaped_small :
    ∃ outputs after, Registry.standard.convert ⟨"cell", "aten::lstm_cell", [], ["hy", "cy"]⟩
        CellOperands.small.toArguments ⟨.ofInputs CellOperands.small.tensors, .empty, [], []⟩ =
          .ok outputs after ∧
      after.graph.nodes.length = 20 ∧
      ∀ made ∈ after.graph.nodes, made.WellShaped after.graph fun _ => 2 := by
  have reached : Graph.empty.Reaches (.ofInputs CellOperands.small.tensors) := by
    have declared (name : String) (shape : Shape) {graph : Graph}
        (reached : Graph.empty.Reaches graph) :=
      Graph.Reaches.call graph (.addInput name shape .float32) reached
    exact declared "b" [.size 4] <| declared "r" [.size 4, .size 1] <|
      declared "w" [.size 4, .size 1] <| declared "c" [.symbol "n", .size 1] <|
      declared "h" [.symbol "n", .size 1] <| declared "x" [.symbol "n", .size 1] <| .start .empty
  have counted : (match Registry.standard.convert
      ⟨"cell", "aten::lstm_cell", [], ["hy", "cy"]⟩ CellOperands.small.toArguments
      ⟨.ofInputs CellOperands.small.tensors, .empty, [], []⟩ with
    | .ok _ after => after.graph.nodes.length
    | .error _ _ => 0) = 20 := by
    decide +kernel
  cases run : Registry.standard.convert ⟨"cell", "aten::lstm_cell", [], ["hy", "cy"]⟩
      CellOperands.small.toArguments ⟨.ofInputs CellOperands.small.tensors, .empty, [], []⟩ with
  | error failure after =>
      rw [run] at counted
      cases counted
  | ok outputs after =>
      rw [run] at counted
      have inRange : SizesInRange fun _ => 2 :=
        fun _ => ⟨Nat.le_succ 1, show (2 : Int) ≤ indexMax by decide⟩
      exact ⟨outputs, after, rfl, counted,
        @convert_wellShaped (fun _ => 2) _ _ _ _ _ reached inRange run⟩

end OperatorLowering
