/-
**What a lowering of a cell depends on.**

A lowering of a cell sees its operands and nothing else of the graph: it makes the same requests
whatever graph it is given, as long as that owns the operands. So two runs on different graphs keep
in step until they end, in values that belong together or in the same failure. What a run appends to
the one graph is what it appends to the other, with other names for what is new.

* `Runs.stepRelation`: steps that keep graphs in step;
* `Runs.lstmCell_inStep`: one step of a cell;
* `CellOutputs.Alike`: two endings that are the same but for names;
* `lstmCell_depends_on_operands`: any two runs on the same operands.
-/

import OperatorLowering.Proofs.Cell.Lowering
import OperatorLowering.Proofs.Cell.Meaning
import OperatorLowering.Proofs.Graph.Renaming
import OperatorLowering.Proofs.Lowering.Parametric

namespace OperatorLowering

/-! ### Runs in step -/

namespace Runs

/-- Steps of lowerings, in step. -/
abbrev Lowers {Value : Type} (runs : Runs) (twins : Twins) (context context' : Context)
    (step step' : Lower Value) (relates : Twins → Value → Value → Prop) : Prop :=
  runs.InStep Context.graph twins context context' step step' relates

variable {runs : Runs} {twins : Twins} {context context' : Context} {Value : Type}
  {relates : Twins → Value → Value → Prop}

/-- Tensors that two requests in step give are of one type. -/
theorem build_inStep {step step' : Build Handle}
    (builds : runs.Builds twins context.graph context'.graph step step' Twins.Tensor) :
    runs.Lowers twins context context' (Lower.build step) (Lower.build step') Twins.Like := by
  cases builds with
  | ok run run' subset lockstep member =>
      exact .ok (Lower.build_run_ok run) (Lower.build_run_ok run') subset lockstep
        ⟨member, lockstep.typed _ member⟩
  | error run run' lockstep =>
      exact .error (Lower.build_run_error run) (Lower.build_run_error run') lockstep

/-- Steps on behalf of the same node. -/
theorem checked_inStep {step step' : Lower Value} (node : OperatorNode) (primitive : String)
    (lowers : runs.Lowers twins context context' step step' relates) :
    runs.Lowers twins context context' (Lower.checked node primitive step)
      (Lower.checked node primitive step') relates := by
  cases lowers with
  | ok run run' subset lockstep holds =>
      exact .ok (Lower.checked_run_ok node primitive run) (Lower.checked_run_ok node primitive run')
        subset lockstep holds
  | error run run' lockstep =>
      exact .error (Lower.checked_run_error node primitive run)
        (Lower.checked_run_error node primitive run') lockstep

/-- **Steps that keep graphs in step**, wherever they are made. Two products take the same factors,
since a refused one names them. -/
def stepRelation (runs : Runs) : StepRelation where
  Relates twins step step' values := ∀ context context',
    runs.Lockstep twins context.graph context'.graph →
      runs.Lowers twins context context' step step' values
  Factors factor factor' := factor = factor'
  pure holds _ _ lockstep := .pure lockstep holds
  throw failure _ _ lockstep := .throw lockstep failure
  bind first _ second context context' lockstep := by
    refine InStep.bind (first context context' lockstep) ?_
    intro more value value' after after' subset later holds
    exact second more value value' subset holds after after' later
  checked node primitive lowers context context' lockstep := by
    exact checked_inStep node primitive (lowers context context' lockstep)
  event _ _ _ _ lockstep := .ok rfl rfl (List.Subset.refl _) lockstep trivial
  associate _ _ _ like _ _ lockstep := .ok rfl rfl (List.Subset.refl _) lockstep like
  matmul transposeA transposeB likeA likeB sameA sameB _ _ lockstep := by
    subst sameA sameB
    exact build_inStep (matmul_inStep lockstep likeA.member likeB.member transposeA transposeB)
  elementwise op likeA likeB _ _ lockstep :=
    build_inStep (elementwise_inStep lockstep likeA.member likeB.member op)
  slice offsets sizes strides like _ _ lockstep :=
    build_inStep (slice_inStep lockstep like.member offsets sizes strides)
  activation kind like _ _ lockstep := build_inStep (activation_inStep lockstep like.member kind)
  reshape shape like _ _ lockstep := build_inStep (reshape_inStep lockstep like.member shape)

/-- **One step of a cell**, of operands that are given to both runs. -/
theorem lstmCell_inStep (lockstep : runs.Lockstep twins context.graph context'.graph)
    (node : OperatorNode) {operands : CellOperands} (given : operands.tensors ⊆ runs.shared) :
    runs.Lowers twins context context' (Lower.lstmCell node operands)
      (Lower.lstmCell node operands) TwinOutputs := by
  have like {tensor : Handle} (member : tensor ∈ operands.tensors) : twins.Like tensor tensor :=
    ⟨lockstep.shared (given member), rfl⟩
  have bias {bias : Option Handle} (member : ∀ tensor ∈ bias, tensor ∈ operands.tensors) :
      Option.Rel twins.Like bias bias := by
    cases bias with
    | none => exact .none
    | some tensor => exact .some (like (member tensor rfl))
  refine runs.stepRelation.lstmCell ?_ node context context' lockstep
  exact
    { input := like (by simp [CellOperands.tensors])
      hidden := like (by simp [CellOperands.tensors])
      cell := like (by simp [CellOperands.tensors])
      inputWeights := like (by simp [CellOperands.tensors])
      hiddenWeights := like (by simp [CellOperands.tensors])
      inputBias := bias fun tensor present => by simp_all [CellOperands.tensors]
      hiddenBias := bias fun tensor present => by simp_all [CellOperands.tensors]
      fromInput := ⟨rfl, rfl⟩
      fromHidden := ⟨rfl, rfl⟩ }

end Runs

/-! ### Runs that differ by names -/

namespace CellOutputs

/-- The outputs of a step under other names. -/
def rename (change : String → String) (outputs : CellOutputs) : CellOutputs :=
  ⟨outputs.hidden.rename change, outputs.cell.rename change⟩

/-- **Endings that are alike**: the outputs of the one are those of the other, renamed, or both are
the same failure. -/
inductive Alike (change : String → String) :
    EStateM.Result Failure Context CellOutputs → EStateM.Result Failure Context CellOutputs → Prop
  | returned (outputs : CellOutputs) (after after' : Context) :
      Alike change (.ok outputs after) (.ok (outputs.rename change) after')
  | failed (failure : Failure) (after after' : Context) :
      Alike change (.error failure after) (.error failure after')

end CellOutputs

/-- **A lowering of a cell depends on its operands alone.** On any two graphs that own them it
returns on both or fails in the same way on both. Either way the two graphs differ from what they
were by appended nodes, constants, layers and tensors that are the same up to the names that are
new, and so do the outputs; the names of the operands are kept. -/
theorem lstmCell_depends_on_operands (node : OperatorNode) (operands : CellOperands)
    (context context' : Context)
    (owned : ∀ tensor ∈ operands.tensors, context.graph.owns tensor = true)
    (owned' : ∀ tensor ∈ operands.tensors, context'.graph.owns tensor = true) :
    ∃ change : String → String,
      (∀ tensor ∈ operands.tensors, change tensor.name = tensor.name) ∧
      Graph.Renames change
        context.graph (final (Lower.lstmCell node operands) context).graph
        context'.graph (final (Lower.lstmCell node operands) context').graph ∧
      CellOutputs.Alike change (Lower.lstmCell node operands context)
        (Lower.lstmCell node operands context') := by
  let runs : Runs := ⟨context.graph, context'.graph, operands.tensors⟩
  have given : runs.Given := fun tensor listed => ⟨owned tensor listed, owned' tensor listed⟩
  have begins : runs.Lockstep runs.start context.graph context'.graph := .begin given
  unfold final
  cases Runs.lstmCell_inStep begins node (List.Subset.refl operands.tensors) with
  | @ok outputs outputs' after after' twins run run' _ lockstep outcome =>
      obtain ⟨renames, kept⟩ := lockstep.renames given
      have unique := lockstep.unique given
      have hidden := unique.rename_tensor lockstep.typed outcome.hidden.member
      have cell := unique.rename_tensor lockstep.typed outcome.cell.member
      have renamed : outputs' = outputs.rename twins.rename := by
        rw [CellOutputs.rename, ← hidden, ← cell]
      rw [run, run', renamed]
      exact ⟨twins.rename, kept, renames, .returned outputs after after'⟩
  | @error failure after after' twins run run' lockstep =>
      obtain ⟨renames, kept⟩ := lockstep.renames given
      rw [run, run']
      exact ⟨twins.rename, kept, renames, .failed failure after after'⟩

/-- The small cell beside tensors that bear names which its lowering would choose. -/
def Graph.crowded : Graph :=
  (Graph.ofInputs CellOperands.small.tensors).after
    [.addInput "matmul_2_out" [.size 2] .float32,
      .activation ⟨"matmul_2_out", [.size 2], .float32⟩ (.known .tanh)]

/-- The lowering passes over what it finds there and is the same otherwise. -/
theorem lstmCell_small_in_crowd :
    (final (Lower.lstmCell ⟨"cell", "aten::lstm_cell", [], ["hy", "cy"]⟩ .small)
        ⟨.ofInputs CellOperands.small.tensors, .empty, [], []⟩).graph.layers.map Layer.output ≠
      ((final (Lower.lstmCell ⟨"cell", "aten::lstm_cell", [], ["hy", "cy"]⟩ .small)
        ⟨.crowded, .empty, [], []⟩).graph.layers.drop 1).map Layer.output ∧
    ∃ change : String → String,
      (∀ tensor ∈ CellOperands.small.tensors, change tensor.name = tensor.name) ∧
      Graph.Renames change (.ofInputs CellOperands.small.tensors)
        (final (Lower.lstmCell ⟨"cell", "aten::lstm_cell", [], ["hy", "cy"]⟩ .small)
          ⟨.ofInputs CellOperands.small.tensors, .empty, [], []⟩).graph
        .crowded
        (final (Lower.lstmCell ⟨"cell", "aten::lstm_cell", [], ["hy", "cy"]⟩ .small)
          ⟨.crowded, .empty, [], []⟩).graph ∧
      CellOutputs.Alike change
        (Lower.lstmCell ⟨"cell", "aten::lstm_cell", [], ["hy", "cy"]⟩ .small
          ⟨.ofInputs CellOperands.small.tensors, .empty, [], []⟩)
        (Lower.lstmCell ⟨"cell", "aten::lstm_cell", [], ["hy", "cy"]⟩ .small
          ⟨.crowded, .empty, [], []⟩) :=
  ⟨by decide, lstmCell_depends_on_operands _ .small
    ⟨.ofInputs CellOperands.small.tensors, .empty, [], []⟩ ⟨.crowded, .empty, [], []⟩
    (by decide) (by decide)⟩

end OperatorLowering
