/-
**What the steps of a lowering do.**

A building step runs on the graph of the context and leaves the rest of it alone. A step on behalf
of a node ends as the step itself does, a rejection being reported as the node's failure
(`Failure.onBehalf`).
-/

import OperatorLowering.Lowering.Context
import OperatorLowering.Proofs.Run

namespace OperatorLowering

namespace Lower

variable {Value : Type} {context : Context}

theorem build_run_ok {step : Build Value} {value : Value} {graph : Graph}
    (run : step context.graph = .ok value graph) :
    build step context = .ok value { context with graph } := by
  simp only [build, run]

theorem build_run_error {step : Build Value} {fault : Fault} {graph : Graph}
    (run : step context.graph = .error fault graph) :
    build step context = .error (.graph fault) { context with graph } := by
  simp only [build, run]

theorem checked_run_ok {step : Lower Value} {value : Value} {after : Context}
    (node : OperatorNode) (primitive : String) (run : step context = .ok value after) :
    checked node primitive step context = .ok value after := by
  simp only [checked, run]

theorem checked_run_error {step : Lower Value} {failure : Failure} {after : Context}
    (node : OperatorNode) (primitive : String) (run : step context = .error failure after) :
    checked node primitive step context = .error (failure.onBehalf node primitive) after := by
  simp only [checked, run]

theorem build_run_eq_ok {step : Build Value} {value : Value} {after : Context} :
    build step context = .ok value after ↔
      ∃ graph, step context.graph = .ok value graph ∧ after = { context with graph } := by
  cases run : step context.graph with
  | ok found graph =>
      rw [build_run_ok run]
      constructor
      · rintro ⟨⟩
        exact ⟨graph, rfl, rfl⟩
      · rintro ⟨_, ⟨⟩, rfl⟩
        rfl
  | error fault graph =>
      rw [build_run_error run]
      exact iff_of_false nofun nofun

theorem checked_run_eq_ok {step : Lower Value} {value : Value} {after : Context}
    {node : OperatorNode} {primitive : String} :
    checked node primitive step context = .ok value after ↔ step context = .ok value after := by
  cases run : step context with
  | ok found middle => rw [checked_run_ok node primitive run]
  | error failure middle =>
      rw [checked_run_error node primitive run]
      exact iff_of_false nofun nofun

/-- A building step ends as it does on the graph alone. -/
theorem build_ends {step : Build Value} {done : Value → Graph → Prop} {failed : Fault → Graph → Prop}
    (ends : Ends step context.graph done failed) :
    Ends (build step) context
      (fun value after => done value after.graph ∧ after = { context with graph := after.graph })
      (fun failure after => (∃ fault, failure = .graph fault ∧ failed fault after.graph) ∧
        after = { context with graph := after.graph }) := by
  cases run : step context.graph with
  | ok value graph => exact Ends.of_ok (build_run_ok run) ⟨ends.ok run, rfl⟩
  | error fault graph =>
      exact Ends.of_error (build_run_error run) ⟨⟨fault, rfl, ends.error run⟩, rfl⟩

/-- A step on behalf of a node ends as the step does, but for the report of a rejection. -/
theorem checked_ends {step : Lower Value} {done : Value → Context → Prop}
    {failed : Failure → Context → Prop} (node : OperatorNode) (primitive : String)
    (ends : Ends step context done fun failure after =>
      failed (failure.onBehalf node primitive) after) :
    Ends (checked node primitive step) context done failed := by
  cases run : step context with
  | ok value after => exact Ends.of_ok (checked_run_ok node primitive run) (ends.ok run)
  | error failure after =>
      exact Ends.of_error (checked_run_error node primitive run) (ends.error run)

/-- The outputs of a node are looked up without a change; the unbound ones are reported. -/
theorem requireOutputs_ends (node : OperatorNode) :
    Ends (requireOutputs node) context
      (fun outputs after => after = context ∧ outputs = context.boundTo node.outputs ∧
        context.unbound node = [])
      (fun failure after => after = context ∧ context.unbound node ≠ [] ∧
        failure = .ofNode node (.lowering "output binding"
          (some (.unbound (context.unbound node))))) := by
  unfold requireOutputs
  refine Ends.after_ok rfl ?_
  cases context.unbound node with
  | nil => exact Ends.of_ok rfl ⟨rfl, rfl, rfl⟩
  | cons value values => exact Ends.of_error rfl ⟨rfl, List.cons_ne_nil _ _, rfl⟩

end Lower

end OperatorLowering
