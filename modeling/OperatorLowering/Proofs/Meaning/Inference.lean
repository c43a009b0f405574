/-
**Shape inference.**

A backend infers extents in one pass: it starts from the dimensions of the inputs and of the
constants, applies the shape rule of each node in order, and gives up where a rule has no answer.
Where every node is well-shaped the pass comes to its end, and what it has found then is what the
graph declares.

* `Graph.infer?`: the pass over all nodes;
* `Graph.Knows.infer?`: one node;
* `Graph.infer?_wellShaped`: the pass over well-shaped nodes.
-/

import Mathlib.Data.List.Forall2
import OperatorLowering.Proofs.Graph.Calls
import OperatorLowering.Proofs.Meaning.Nodes

namespace OperatorLowering

/-! ### The pass -/

/-- The extents that are known of tensor names. -/
abbrev Extents := String → Option Extent

/-- One node gives its output the dimensions of its shape rule. -/
def Node.infer? (known : Extents) (node : Node) : Option Extents := do
  let operands ← node.inputs.mapM known
  let dims ← node.op.dims? operands
  return Function.update known node.output (some ⟨dims, none⟩)

/-- The extent of a constant: its dimensions and, if it steers a slice or a reshape, its integers.
-/
def Constant.extent (constant : Constant) : Extent :=
  match constant.value with
  | .indices values => ⟨constant.value.dims, some values⟩
  | .elements .. => ⟨constant.value.dims, none⟩

/-- What is known before the first node: the inputs, once symbols have sizes, and the constants. -/
def Graph.sources (graph : Graph) (sizes : String → Nat) : Extents := fun name =>
  match graph.inputs.find? (fun tensor => tensor.name = name),
      graph.constants.find? (fun constant => constant.name = name) with
  | some tensor, _ => some ⟨tensor.shape.under sizes, none⟩
  | none, some constant => some constant.extent
  | none, none => none

/-- **The pass over a graph**: all nodes in order. -/
def Graph.infer? (graph : Graph) (sizes : String → Nat) : Option Extents :=
  graph.nodes.foldlM Node.infer? (graph.sources sizes)

variable {sizes : String → Nat} {graph : Graph}

/-- The dimensions of a constant are known whatever the symbols stand for. -/
theorem ConstantValue.under_shape (value : ConstantValue) :
    value.shape.under sizes = value.dims := by
  rw [shape, Shape.under, List.map_map]
  exact List.map_id'' (fun _ => rfl) _

namespace Graph

/-- Names are known as the graph declares them. -/
def Knows (graph : Graph) (sizes : String → Nat) (known : Extents) (names : List String) : Prop :=
  ∀ name ∈ names, known name = graph.extent? sizes name

theorem Knows.append {known : Extents} {first second : List String}
    (knows : graph.Knows sizes known first) (more : graph.Knows sizes known second) :
    graph.Knows sizes known (first ++ second) :=
  fun name member => (List.mem_append.mp member).elim (knows name) (more name)

/-- What is no constant has no integers. -/
theorem indices?_of_not_mem {name : String}
    (absent : name ∉ graph.constants.map Constant.name) : graph.indices? name = none := by
  have missing : graph.constants.find? (fun constant => constant.name = name) = none := by
    refine List.find?_eq_none.mpr fun constant member => ?_
    rw [decide_eq_true_eq]
    rintro rfl
    exact absent (List.mem_map_of_mem member)
  rw [indices?, missing]

namespace SingleAssignment

/-- No name is both an input and a constant, or both a constant and an output. -/
theorem disjoint (single : graph.SingleAssignment) {name : String}
    (isConstant : name ∈ graph.constants.map Constant.name) :
    name ∉ graph.inputs.map Handle.name ∧ name ∉ graph.nodes.map Node.output := by
  have distinct := single.distinct
  simp only [defined, List.nodup_append] at distinct
  obtain ⟨⟨_, _, inputs⟩, _, outputs⟩ := distinct
  exact ⟨fun isInput => inputs name isInput name isConstant rfl,
    fun isOutput => outputs name (List.mem_append_right _ isConstant) name isOutput rfl⟩

theorem knows_inputs (single : graph.SingleAssignment) :
    graph.Knows sizes (graph.sources sizes) (graph.inputs.map Handle.name) := by
  intro name member
  have absent : name ∉ graph.constants.map Constant.name := fun isConstant =>
    (single.disjoint isConstant).1 member
  obtain ⟨tensor, listed, same⟩ := List.mem_map.mp member
  obtain ⟨found, isFound⟩ : ∃ found, graph.inputs.find? (fun tensor => tensor.name = name) =
      some found := by
    rw [← Option.isSome_iff_exists, List.find?_isSome]
    exact ⟨tensor, listed, decide_eq_true same⟩
  have named : found.name = name := by simpa using List.find?_some isFound
  have declared := single.inputs found (List.mem_of_find?_eq_some isFound)
  rw [named] at declared
  simp only [sources, isFound, extent?, declared, indices?_of_not_mem absent, Option.map_some]

theorem knows_constants (single : graph.SingleAssignment) :
    graph.Knows sizes (graph.sources sizes) (graph.constants.map Constant.name) := by
  intro name member
  have absent : graph.inputs.find? (fun tensor => tensor.name = name) = none := by
    refine List.find?_eq_none.mpr fun tensor listed => ?_
    rw [decide_eq_true_eq]
    rintro rfl
    exact (single.disjoint member).1 (List.mem_map_of_mem listed)
  obtain ⟨constant, listed, same⟩ := List.mem_map.mp member
  obtain ⟨found, isFound⟩ : ∃ found, graph.constants.find?
      (fun constant => constant.name = name) = some found := by
    rw [← Option.isSome_iff_exists, List.find?_isSome]
    exact ⟨constant, listed, decide_eq_true same⟩
  have named : found.name = name := by simpa using List.find?_some isFound
  obtain ⟨tensor, declared, shaped, _⟩ := single.constants found (List.mem_of_find?_eq_some isFound)
  rw [named] at declared
  obtain ⟨_, value⟩ := found
  simp only [sources, absent, isFound, extent?, declared, indices?, Option.map_some, shaped,
    ConstantValue.under_shape, Constant.extent]
  cases value <;> rfl

end SingleAssignment

/-- **One well-shaped node** makes its output known as declared, if what it reads is. -/
theorem Knows.infer? {known : Extents} {names : List String} {node : Node}
    (knows : graph.Knows sizes known names) (shaped : node.WellShaped graph sizes)
    (reads : ∀ name ∈ node.inputs, name ∈ names)
    (computed : node.output ∉ graph.constants.map Constant.name) :
    ∃ next, node.infer? known = some next ∧ graph.Knows sizes next (names ++ [node.output]) := by
  obtain ⟨operands, output, extents, declared, rule⟩ := shaped
  have read : node.inputs.mapM known = some operands := by
    have same := fun name member => knows name (reads name member)
    exact mapM_eq_some.mpr (((List.forall₂_and_left _ _).mpr ⟨same, mapM_eq_some.mp extents⟩).imp
      fun _ _ found => found.1.trans found.2)
  refine ⟨Function.update known node.output (some ⟨output.shape.under sizes, none⟩), ?_, ?_⟩
  · rw [Node.infer?, read, Option.bind_eq_bind, Option.bind_some, rule]
    rfl
  · intro name member
    by_cases same : name = node.output
    · rw [same, Function.update_self, extent?, declared, indices?_of_not_mem computed]
      rfl
    · rw [Function.update_of_ne same]
      refine knows name ((List.mem_append.mp member).resolve_right fun last => ?_)
      exact same (List.mem_singleton.mp last)

/-- **The pass over well-shaped nodes** succeeds, and gives every name of the table the extent that
the graph declares. -/
theorem infer?_wellShaped (single : graph.SingleAssignment)
    (shaped : ∀ node ∈ graph.nodes, node.WellShaped graph sizes) :
    ∃ known, graph.infer? sizes = some known ∧ graph.Knows sizes known graph.tensors.names := by
  let sourced := graph.inputs.map Handle.name ++ graph.constants.map Constant.name
  -- Along the nodes, the sources and the outputs of the nodes behind are known.
  have pass (rest earlier : List Node) (known : Extents) (split : graph.nodes = earlier ++ rest)
      (knows : graph.Knows sizes known (sourced ++ earlier.map Node.output)) :
      ∃ last, rest.foldlM Node.infer? known = some last ∧
        graph.Knows sizes last (sourced ++ graph.nodes.map Node.output) := by
    induction rest generalizing earlier known with
    | nil =>
        rw [List.append_nil] at split
        exact ⟨known, rfl, split ▸ knows⟩
    | cons node rest ih =>
        have listed : node ∈ graph.nodes := split ▸ List.mem_append_right _ List.mem_cons_self
        obtain ⟨next, made, knowsNext⟩ := knows.infer? (shaped node listed)
          (fun name read => by
            have source := single.ordered earlier node rest split name read
            rwa [← or_assoc, ← List.mem_append, ← List.mem_append] at source)
          (fun isConstant => (single.disjoint isConstant).2 (List.mem_map_of_mem listed))
        rw [List.foldlM_cons, made]
        refine ih (earlier ++ [node]) next (by rw [split, List.append_assoc]; rfl) ?_
        rwa [List.map_append, ← List.append_assoc]
  obtain ⟨known, inferred, knows⟩ := pass graph.nodes [] (graph.sources sizes) rfl
    ((single.knows_inputs.append single.knows_constants).append nofun)
  refine ⟨known, inferred, fun name member => knows name ?_⟩
  exact (single.keys name).mp member

end Graph

end OperatorLowering
