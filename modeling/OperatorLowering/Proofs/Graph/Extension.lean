/-
**What is kept of a graph.**

A graph is extended and never rewritten. What it was is at the beginning of what it becomes, a
tensor stays under its name, and what one export takes from it begins what a later export takes.

* `Graph.Precedes`: a graph is the beginning of another;
* `Graph.exported_again`: an export returns again, unless an input declared since forbids it.
-/

import OperatorLowering.Proofs.Graph.Calls
import OperatorLowering.Proofs.Graph.SingleAssignment

namespace OperatorLowering

/-- **A graph is the beginning of another**: in its four lists and in the table, where every name
keeps its place and its tensor. -/
structure Graph.Precedes (before after : Graph) : Prop where
  nodes : before.nodes <+: after.nodes
  constants : before.constants <+: after.constants
  inputs : before.inputs <+: after.inputs
  layers : before.layers <+: after.layers
  entries : before.tensors.entries <+: after.tensors.entries
  tensors : ∀ name tensor, before.tensors.get? name = some tensor →
    after.tensors.get? name = some tensor
  counter : before.counter ≤ after.counter

/-- What a graph grew from is its beginning. -/
theorem Graph.Grown.precedes {before after : Graph} (grown : before.Grown after) :
    before.Precedes after := by
  obtain ⟨additions, grows⟩ := grown
  exact
    { nodes := ⟨_, grows.nodes.symm⟩
      constants := ⟨_, grows.constants.symm⟩
      inputs := ⟨_, grows.inputs.symm⟩
      layers := ⟨_, grows.layers.symm⟩
      entries := ⟨_, grows.entries.symm⟩
      tensors := fun _ _ found => grows.keeps found
      counter := grows.counter }

/-! ### Exports -/

/-- **An export returns again** on another graph, with outputs of the same types, if that graph owns
them and none of its inputs is new and cannot be exported. -/
theorem Graph.exported_again {graph later : Graph} {outputs outputs' : List Handle}
    {options : ExportOptions} {model : Model}
    (exported : graph.toModel outputs options = .ok model)
    (inputs : ∀ input ∈ later.inputs, input ∈ graph.inputs ∨ input.Exportable options.checked)
    (again : ∀ output' ∈ outputs', later.owns output' = true ∧ ∃ output ∈ outputs,
      output'.shape = output.shape ∧ output'.dtype = output.dtype ∧
        (output.name ≠ "" → output'.name ≠ "")) :
    ∃ model', later.toModel outputs' options = .ok model' := by
  obtain ⟨_, exportable, grantable⟩ := toModel_returns_iff.mp ⟨model, exported⟩
  refine toModel_returns_iff.mpr ⟨fun output' member => (again output' member).1, ?_, grantable⟩
  intro tensor member
  rcases List.mem_append.mp member with input | output
  · rcases inputs tensor input with old | new
    · exact exportable tensor (List.mem_append_left outputs old)
    · exact new
  · obtain ⟨_, first, listed, shape, dtype, named⟩ := again tensor output
    have fit := exportable first (List.mem_append_right graph.inputs listed)
    exact ⟨⟨shape ▸ fit.dims, fun checked => named (fit.name checked)⟩, dtype ▸ fit.computed⟩

/-- **An earlier model begins a later one** in its nodes and its constants, whatever the outputs. -/
theorem Graph.Precedes.models {before after : Graph} (precedes : before.Precedes after)
    {outputs outputs' : List Handle} {options options' : ExportOptions} {model model' : Model}
    (earlier : before.toModel outputs options = .ok model)
    (later : after.toModel outputs' options' = .ok model') :
    model.nodes <+: model'.nodes ∧ model.constants <+: model'.constants := by
  have first := exports_of_toModel earlier
  have second := exports_of_toModel later
  rw [first.nodes, first.constants, second.nodes, second.constants]
  exact ⟨precedes.nodes, precedes.constants⟩

/-! ### Inputs -/

theorem Request.Adds.no_inputs {request : Request Handle} {output : Handle}
    {additions : List Addition} (adds : request.Adds output additions) :
    additions.filterMap Addition.input? = [] := by
  cases adds with
  | matmul a b _ transposeA transposeB => cases transposeA <;> cases transposeB <;> rfl
  | elementwise => rfl
  | slice => rfl
  | activation => rfl
  | reshape => rfl

/-- Only the declaration of an input adds one. -/
theorem Call.Adds.no_inputs {call : Call} {output : Handle} {additions : List Addition}
    (adds : call.Adds output additions)
    (undeclared : ∀ name shape dtype, call ≠ .addInput name shape dtype) :
    additions.filterMap Addition.input? = [] := by
  cases adds with
  | input name shape dtype => exact absurd rfl (undeclared name shape dtype)
  | literal value given name => rfl
  | request request _ _ _ _ adds => exact adds.no_inputs
  | slice => rfl

/-- What a graph has declared since is of types that are computed on. -/
def Graph.DeclaresComputed (before after : Graph) : Prop :=
  ∀ input ∈ after.inputs, input ∈ before.inputs ∨ input.dtype.computeCode?.isSome = true

namespace Call

/-- A call that declares no input leaves the inputs alone, whatever it ends in. -/
theorem inputs_of_undeclared {call : Call}
    (undeclared : ∀ name shape dtype, call ≠ .addInput name shape dtype) (graph : Graph) :
    Ends call.build graph (fun _ after => after.inputs = graph.inputs)
      (fun _ after => after.inputs = graph.inputs) := by
  refine (call.build_ends graph).mono ?_ ?_
  · rintro output after ⟨_, additions, adds, grows⟩
    rw [grows.inputs, adds.no_inputs undeclared, List.append_nil]
  · rintro fault after ⟨constants, grows⟩
    exact grows.inputs_of_constants

end Call

end OperatorLowering
