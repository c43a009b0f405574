/-
**Exports.**

An export makes its checks one after the other and then writes down what the graph holds. Which
model it returns, and whether it returns one, is therefore a conjunction of conditions, of which
only the first is about the graph's table.

* `Graph.toModel_eq_ok`: the checks of an export in order, and its model;
* `Graph.toModel_returns_iff`: when an export returns;
* `Graph.exports_of_toModel`: what the model takes from the graph.
-/

import OperatorLowering.Graph.Model
import OperatorLowering.Proofs.Run

namespace OperatorLowering

/-! ### Checks one by one -/

/-- The declaration of a tensor that is computed on. -/
def Handle.info (tensor : Handle) : ValueInfo :=
  ⟨tensor.name, tensor.dtype.computeCode?.getD 0, tensor.shape⟩

theorem Handle.valueInfo_eq_ok {tensor : Handle} {info : ValueInfo} :
    tensor.valueInfo = .ok info ↔
      tensor.dtype.computeCode?.isSome = true ∧ info = tensor.info := by
  unfold valueInfo ElementType.requireCode Handle.info
  cases tensor.dtype.computeCode? with
  | none => exact iff_of_false nofun fun both => Bool.noConfusion both.1
  | some code => exact ⟨fun same => ⟨rfl, (Except.ok.inj same).symm⟩, fun ⟨_, same⟩ => same ▸ rfl⟩

/-- Tensors are declared if all of them are of types that are computed on. -/
theorem Handle.valueInfos_eq_ok {tensors : List Handle} {infos : List ValueInfo} :
    tensors.mapM Handle.valueInfo = .ok infos ↔
      (∀ tensor ∈ tensors, tensor.dtype.computeCode?.isSome = true) ∧
        infos = tensors.map Handle.info := by
  induction tensors generalizing infos with
  | nil => exact ⟨fun same => ⟨nofun, (Except.ok.inj same).symm⟩, fun ⟨_, same⟩ => same ▸ rfl⟩
  | cons first rest ih =>
      rw [List.mapM_cons, List.forall_mem_cons, List.map_cons]
      constructor
      · intro declared
        obtain ⟨info, one, declared⟩ := except_bind_ok declared
        obtain ⟨more, others, declared⟩ := except_bind_ok declared
        obtain ⟨code, rfl⟩ := Handle.valueInfo_eq_ok.mp one
        obtain ⟨codes, rfl⟩ := ih.mp others
        exact ⟨⟨code, codes⟩, (Except.ok.inj declared).symm⟩
      · rintro ⟨⟨code, codes⟩, rfl⟩
        rw [Handle.valueInfo_eq_ok.mpr ⟨code, rfl⟩, ih.mpr ⟨codes, rfl⟩]
        rfl

/-- An opset is granted if a version of the model format knows it. -/
theorem Model.requireFormat_passes_iff {opset : Int} :
    (∃ version, Model.requireFormat opset = .ok version) ↔
      (Model.formatFor? opset).isSome = true := by
  unfold Model.requireFormat
  cases Model.formatFor? opset with
  | none => exact iff_of_false nofun nofun
  | some version => exact iff_of_true ⟨version, rfl⟩ rfl

theorem Model.requireWord_passes_iff (value : Int) :
    Model.requireWord value = .ok () ↔ fitsIndex value = true := by
  unfold Model.requireWord
  split
  · next fits => exact iff_of_true rfl fits
  · next unfit => exact iff_of_false nofun unfit

theorem Model.requireDims_passes_iff (tensor : Handle) :
    Model.requireDims tensor.info = .ok () ↔
      ∀ size, .size size ∈ tensor.shape → fitsIndex size = true := by
  unfold Model.requireDims
  rw [forM_passes_iff]
  constructor
  · intro passes size member
    exact (requireWord_passes_iff size).mp
      (passes size (List.mem_filterMap.mpr ⟨.size size, member, rfl⟩))
  · intro fits size member
    obtain ⟨dim, listed, isSize⟩ := List.mem_filterMap.mp member
    cases dim with
    | size given =>
        cases isSize
        exact (requireWord_passes_iff size).mpr (fits size listed)
    | symbol name => cases isSize

/-- The checker passes models in which everything has a name. -/
theorem Model.check_passes_iff (model : Model) :
    model.check = .ok () ↔
      model.graphName ≠ "" ∧ ∀ info ∈ model.inputs ++ model.outputs, info.name ≠ "" := by
  have named (info : ValueInfo) : Model.requireName info = .ok () ↔ info.name ≠ "" := by
    unfold Model.requireName
    split
    · next empty => exact iff_of_false nofun (not_not_intro empty)
    · next named => exact iff_of_true rfl named
  unfold Model.check
  by_cases empty : model.graphName = ""
  · simp only [empty, if_true]
    exact iff_of_false nofun fun both => both.1 rfl
  · simp only [empty, if_false]
    show (model.inputs ++ model.outputs).forM Model.requireName = .ok () ↔ _
    rw [forM_passes_iff, and_iff_right empty]
    exact forall₂_congr fun info _ => named info

theorem Graph.requireOwned_passes_iff (graph : Graph) (tensor : Handle) :
    graph.requireOwned tensor = .ok () ↔ graph.owns tensor = true := by
  unfold Graph.requireOwned
  split
  · next owned => exact iff_of_true rfl owned
  · next foreign => exact iff_of_false nofun foreign

/-! ### When an export returns -/

/-- A tensor can be presented at the boundary of a model: its known dimensions fit 64 bits and, if
the model is checked, it has a name. -/
structure Handle.Presentable (tensor : Handle) (checked : Bool) : Prop where
  dims : ∀ size, .size size ∈ tensor.shape → fitsIndex size = true
  name : checked = true → tensor.name ≠ ""

/-- **A tensor may stand at the boundary of a model**: it can be presented there, and its type is
computed on. -/
structure Handle.Exportable (tensor : Handle) (checked : Bool) : Prop
    extends tensor.Presentable checked where
  computed : tensor.dtype.computeCode?.isSome = true

/-- What an export asks for can be granted, as far as that depends on no graph. -/
structure ExportOptions.Grantable (options : ExportOptions) : Prop where
  stable : minimumOpset ≤ options.opset
  word : fitsIndex options.opset = true
  known : (Model.formatFor? options.opset).isSome = true
  name : options.checked = true → options.graphName ≠ ""

/-- **What an export passes**, in order, and the model that it returns. -/
theorem Graph.toModel_eq_ok {graph : Graph} {outputs : List Handle} {options : ExportOptions}
    {model : Model} :
    graph.toModel outputs options = .ok model ↔ outputs.forM graph.requireOwned = .ok () ∧
      ∃ inputInfos, graph.inputs.mapM Handle.valueInfo = .ok inputInfos ∧
      ∃ outputInfos, outputs.mapM Handle.valueInfo = .ok outputInfos ∧
        minimumOpset ≤ options.opset ∧
        (inputInfos ++ outputInfos).forM Model.requireDims = .ok () ∧
        Model.requireWord options.opset = .ok () ∧
      ∃ irVersion, Model.requireFormat options.opset = .ok irVersion ∧
        (options.checked = true → model.check = .ok ()) ∧
        model = ⟨irVersion, Model.producerName, options.opset, options.graphName, inputInfos,
          outputInfos, graph.nodes, graph.constants⟩ := by
  unfold toModel
  rw [except_check_eq_ok]
  refine and_congr_right fun _ => ?_
  rw [except_bind_eq_ok]
  refine exists_congr fun inputInfos => and_congr_right fun _ => ?_
  rw [except_bind_eq_ok]
  refine exists_congr fun outputInfos => and_congr_right fun _ => ?_
  by_cases early : options.opset < minimumOpset
  · rw [if_pos early]
    exact iff_of_false nofun fun passes => Int.not_le.mpr early passes.1
  rw [if_neg early, and_iff_right (Int.not_lt.mp early)]
  refine except_check_eq_ok.trans (and_congr_right fun _ => ?_)
  rw [except_check_eq_ok]
  refine and_congr_right fun _ => ?_
  rw [except_bind_eq_ok]
  refine exists_congr fun irVersion => and_congr_right fun _ => ?_
  by_cases checked : options.checked = true
  · rw [if_pos checked, forall_prop_of_true checked]
    refine except_check_eq_ok.trans ⟨?_, ?_⟩
    · rintro ⟨passes, same⟩
      cases same
      exact ⟨passes, rfl⟩
    · rintro ⟨passes, rfl⟩
      exact ⟨passes, rfl⟩
  · rw [if_neg checked, and_iff_right fun given => absurd given checked]
    exact ⟨fun same => (Except.ok.inj same).symm, fun same => same ▸ rfl⟩

/-- **When an export returns**: the graph owns the outputs, each input and each output may stand at
the boundary, and the rest can be granted. -/
theorem Graph.toModel_returns_iff {graph : Graph} {outputs : List Handle}
    {options : ExportOptions} :
    (∃ model, graph.toModel outputs options = .ok model) ↔
      (∀ tensor ∈ outputs, graph.owns tensor = true) ∧
        (∀ tensor ∈ graph.inputs ++ outputs, tensor.Exportable options.checked) ∧
        options.Grantable := by
  constructor
  · rintro ⟨model, exported⟩
    obtain ⟨owned, _, inputs, _, results, stable, dims, word, version, format, check, rfl⟩ :=
      toModel_eq_ok.mp exported
    obtain ⟨inputsComputed, rfl⟩ := Handle.valueInfos_eq_ok.mp inputs
    obtain ⟨outputsComputed, rfl⟩ := Handle.valueInfos_eq_ok.mp results
    rw [forM_passes_iff, ← List.map_append, List.forall_mem_map] at dims
    have named (checked : options.checked = true) : options.graphName ≠ "" ∧
        ∀ tensor ∈ graph.inputs ++ outputs, tensor.info.name ≠ "" := by
      have passes := (Model.check_passes_iff _).mp (check checked)
      rwa [← List.map_append, List.forall_mem_map] at passes
    refine ⟨fun tensor member => (requireOwned_passes_iff graph tensor).mp
      (forM_passes_iff.mp owned tensor member), fun tensor member => ⟨⟨?_, ?_⟩, ?_⟩, stable,
      (Model.requireWord_passes_iff _).mp word,
      Model.requireFormat_passes_iff.mp ⟨version, format⟩, fun checked => (named checked).1⟩
    · exact (Model.requireDims_passes_iff tensor).mp (dims tensor member)
    · exact fun checked => (named checked).2 tensor member
    · exact (List.mem_append.mp member).elim (inputsComputed tensor) (outputsComputed tensor)
  · rintro ⟨owned, exportable, grantable⟩
    obtain ⟨version, format⟩ := Model.requireFormat_passes_iff.mpr grantable.known
    have owns : outputs.forM graph.requireOwned = .ok () :=
      forM_passes_iff.mpr fun tensor member =>
        (requireOwned_passes_iff graph tensor).mpr (owned tensor member)
    have inputs := Handle.valueInfos_eq_ok.mpr ⟨fun tensor member =>
      (exportable tensor (List.mem_append_left outputs member)).computed, rfl⟩
    have results := Handle.valueInfos_eq_ok.mpr ⟨fun tensor member =>
      (exportable tensor (List.mem_append_right graph.inputs member)).computed, rfl⟩
    refine ⟨_, toModel_eq_ok.mpr ⟨owns, _, inputs, _, results, grantable.stable, ?_,
      (Model.requireWord_passes_iff _).mpr grantable.word, version, format, fun checked => ?_,
      rfl⟩⟩
    · rw [forM_passes_iff, ← List.map_append, List.forall_mem_map]
      exact fun tensor member =>
        (Model.requireDims_passes_iff tensor).mpr (exportable tensor member).dims
    · rw [Model.check_passes_iff, ← List.map_append, List.forall_mem_map]
      exact ⟨grantable.name checked, fun tensor member => (exportable tensor member).name checked⟩

/-! ### What a model takes from its graph -/

/-- What an export takes from its graph. -/
structure Graph.Exports (graph : Graph) (outputs : List Handle) (model : Model) : Prop where
  owned : ∀ tensor ∈ outputs, graph.owns tensor = true
  inputs : model.inputs.map ValueInfo.name = graph.inputs.map Handle.name
  outputs : model.outputs.map ValueInfo.name = outputs.map Handle.name
  nodes : model.nodes = graph.nodes
  constants : model.constants = graph.constants

theorem Graph.exports_of_toModel {graph : Graph} {outputs : List Handle} {options : ExportOptions}
    {model : Model} (exported : graph.toModel outputs options = .ok model) :
    graph.Exports outputs model := by
  obtain ⟨owned, _, inputs, _, results, _, _, _, _, _, _, rfl⟩ := toModel_eq_ok.mp exported
  obtain ⟨_, rfl⟩ := Handle.valueInfos_eq_ok.mp inputs
  obtain ⟨_, rfl⟩ := Handle.valueInfos_eq_ok.mp results
  -- The checks decide whether there is a model, not what is in it.
  refine ⟨fun tensor member => (requireOwned_passes_iff graph tensor).mp
    (forM_passes_iff.mp owned tensor member), ?_, ?_, rfl, rfl⟩
  · rw [List.map_map]
    rfl
  · rw [List.map_map]
    rfl

end OperatorLowering
