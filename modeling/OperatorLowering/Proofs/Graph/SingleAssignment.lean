/-
**Single assignment and topological order.**

Every name of a graph is defined once, as an input, a constant or the output of a node, and a node
reads only what was defined before it. Each addition keeps this up, since its tensor's name is free
and what it reads is there; so every graph that has grown from the empty one has the property.

* `Graph.SingleAssignment.of_grows`: growth keeps the property;
* `Graph.SingleAssignment.closed`: an exported model has one producer for every name that it reads.
-/

import Mathlib.Data.List.Nodup
import OperatorLowering.Proofs.Graph.Export
import OperatorLowering.Proofs.Graph.Growth

namespace OperatorLowering

namespace Graph

/-- The names that a graph defines: its inputs, its constants and the outputs of its nodes. -/
def defined (graph : Graph) : List String :=
  graph.inputs.map Handle.name ++ graph.constants.map Constant.name ++ graph.nodes.map Node.output

/-- **Single assignment**: the table holds what is defined, nothing is defined twice, and nodes read
only what is defined before them. -/
structure SingleAssignment (graph : Graph) : Prop where
  /-- The keys of the table are the names that the graph defines. -/
  keys : ∀ name, name ∈ graph.tensors.names ↔ name ∈ graph.defined
  /-- No key stands in the table twice. -/
  table : graph.tensors.names.Nodup
  /-- Inputs, constants and outputs of nodes have different names, within each list and across. -/
  distinct : graph.defined.Nodup
  /-- A key is the name of the tensor under it. -/
  named : ∀ name tensor, graph.tensors.get? name = some tensor → tensor.name = name
  /-- The table holds the declared inputs. -/
  inputs : ∀ tensor ∈ graph.inputs, graph.tensors.get? tensor.name = some tensor
  /-- The table declares a constant with its own dimensions and element type. -/
  constants : ∀ constant ∈ graph.constants, ∃ tensor,
    graph.tensors.get? constant.name = some tensor ∧
      tensor.shape = constant.value.shape ∧ tensor.dtype = constant.value.dtype
  /-- A node reads inputs, constants and outputs of strictly earlier nodes. -/
  ordered : ∀ earlier node later, graph.nodes = earlier ++ node :: later →
    ∀ name ∈ node.inputs, name ∈ graph.inputs.map Handle.name ∨
      name ∈ graph.constants.map Constant.name ∨ name ∈ earlier.map Node.output

/-- An addition defines the name of its tensor, if it has one. -/
theorem defined_apply (addition : Addition) (counter : Nat) (graph : Graph) :
    (addition.apply counter graph).defined.Perm
      (graph.defined ++ (addition.tensor?.map Handle.name).toList) := by
  unfold defined
  cases addition with
  | input tensor =>
      simp only [Addition.apply, Addition.input?, Addition.constant?, Addition.node?,
        Addition.tensor?, Option.toList_some, Option.toList_none, Option.map_some, List.map_append,
        List.map_cons, List.map_nil, List.append_nil, List.append_assoc]
      exact List.Perm.append_left _ (List.perm_append_comm.trans (by simp))
  | constant made =>
      simp only [Addition.apply, Addition.input?, Addition.constant?, Addition.node?,
        Addition.tensor?, Option.toList_some, Option.toList_none, Option.map_some, List.map_append,
        List.map_cons, List.map_nil, List.append_nil, List.append_assoc]
      exact List.Perm.append_left _ (List.Perm.append_left _ List.perm_append_comm)
  | node made shape dtype =>
      simp [Addition.apply, Addition.input?, Addition.constant?, Addition.node?, Addition.tensor?]
  | layer made =>
      simp [Addition.apply, Addition.input?, Addition.constant?, Addition.node?, Addition.tensor?]

namespace SingleAssignment

variable {graph : Graph} {addition : Addition} {counter : Nat}

/-- The graph to which nothing has been appended. -/
theorem empty : Graph.empty.SingleAssignment where
  keys name := by simp [Graph.empty, defined, NameTable.empty, NameTable.names]
  table := by simp [Graph.empty, NameTable.empty, NameTable.names]
  distinct := by simp [Graph.empty, defined]
  named name tensor found := by cases found
  inputs tensor member := by cases member
  constants constant member := by cases member
  ordered earlier node later split := by simp [Graph.empty] at split

/-- A free name is not defined. -/
theorem not_defined (single : graph.SingleAssignment) {name : String}
    (free : graph.tensors.contains name = false) : name ∉ graph.defined := by
  intro there
  rw [(NameTable.contains_iff graph.tensors name).mpr ((single.keys name).mpr there)] at free
  cases free

theorem mem_sources (single : graph.SingleAssignment) {name : String}
    (there : graph.tensors.contains name = true) :
    name ∈ graph.inputs.map Handle.name ∨ name ∈ graph.constants.map Constant.name ∨
      name ∈ graph.nodes.map Node.output := by
  have defined := (single.keys name).mp ((NameTable.contains_iff graph.tensors name).mp there)
  rw [Graph.defined, List.mem_append, List.mem_append, or_assoc] at defined
  exact defined

theorem names_apply (allowed : addition.Allowed graph) :
    (addition.apply counter graph).tensors.names =
      graph.tensors.names ++ (addition.tensor?.map Handle.name).toList := by
  show (addition.enter graph.tensors).names = _
  unfold Addition.enter
  cases entered : addition.tensor? with
  | none => simp
  | some tensor =>
      have free := allowed.fresh tensor entered
      have absent : tensor.name ∉ graph.tensors.names := by
        rw [← NameTable.contains_iff, free]
        exact Bool.false_ne_true
      simp only [NameTable.names_insert, if_neg absent, Option.map_some, Option.toList_some]

/-- The name of a new tensor is none of those that are defined. -/
theorem nodup_apply (single : graph.SingleAssignment) (allowed : addition.Allowed graph)
    {names : List String} (distinct : names.Nodup)
    (within : ∀ name ∈ names, name ∈ graph.defined) :
    (names ++ (addition.tensor?.map Handle.name).toList).Nodup := by
  cases entered : addition.tensor? with
  | none => simpa using distinct
  | some tensor =>
      have absent := single.not_defined (allowed.fresh tensor entered)
      rw [Option.map_some, Option.toList_some, ← List.concat_eq_append]
      exact List.Nodup.concat (fun there => absent (within _ there)) distinct

/-- What the nodes read is defined before them: a new node reads what is there, and an older one
reads what it read before. -/
theorem ordered_apply (single : graph.SingleAssignment) (allowed : addition.Allowed graph)
    {earlier later : List Node} {node : Node}
    (split : (addition.apply counter graph).nodes = earlier ++ node :: later) {name : String}
    (read : name ∈ node.inputs) :
    name ∈ graph.inputs.map Handle.name ∨ name ∈ graph.constants.map Constant.name ∨
      name ∈ earlier.map Node.output := by
  have nodes : graph.nodes ++ addition.node?.toList = earlier ++ node :: later := split
  cases made : addition.node? with
  | none =>
      rw [made, Option.toList_none, List.append_nil] at nodes
      exact single.ordered earlier node later nodes name read
  | some last =>
      rw [made, Option.toList_some] at nodes
      rcases List.eq_nil_or_concat later with rfl | ⟨others, final, rfl⟩
      · obtain ⟨rfl, same⟩ := List.append_inj' nodes rfl
        obtain rfl := (List.cons.inj same).1
        refine single.mem_sources (allowed.known name ?_)
        cases addition <;> cases made
        exact read
      · rw [List.concat_eq_append, ← List.cons_append, ← List.append_assoc] at nodes
        exact single.ordered earlier node others (List.append_inj' nodes rfl).1 name read

/-- **One addition** keeps the property. -/
theorem apply (single : graph.SingleAssignment) (allowed : addition.Allowed graph) :
    (addition.apply counter graph).SingleAssignment where
  keys name := by
    rw [names_apply allowed, (defined_apply addition counter graph).mem_iff, List.mem_append,
      List.mem_append, single.keys name]
  table := by
    rw [names_apply allowed]
    exact nodup_apply single allowed single.table fun name => (single.keys name).mp
  distinct := by
    rw [(defined_apply addition counter graph).nodup_iff]
    exact nodup_apply single allowed single.distinct fun _ => id
  named name tensor found := by
    have shown : (addition.enter graph.tensors).get? name = some tensor := found
    rw [get?_enter] at shown
    cases entered : addition.tensor? with
    | none =>
        rw [entered] at shown
        exact single.named name tensor shown
    | some new =>
        rw [entered] at shown
        by_cases same : name = new.name
        · simp only [same, if_true, Option.some.injEq] at shown
          rw [same, shown]
        · simp only [same, if_false] at shown
          exact single.named name tensor shown
  inputs tensor member := by
    have split : tensor ∈ graph.inputs ++ addition.input?.toList := member
    rcases List.mem_append.mp split with old | new
    · exact keeps_apply allowed (single.inputs tensor old)
    · cases addition with
      | input declared =>
          rw [List.mem_singleton.mp new]
          exact enters_apply rfl
      | constant made => cases new
      | node made shape dtype => cases new
      | layer made => cases new
  constants constant member := by
    have split : constant ∈ graph.constants ++ addition.constant?.toList := member
    rcases List.mem_append.mp split with old | new
    · obtain ⟨tensor, found, shaped, typed⟩ := single.constants constant old
      exact ⟨tensor, keeps_apply allowed found, shaped, typed⟩
    · cases addition with
      | constant made =>
          rw [List.mem_singleton.mp new]
          have entered : (Addition.constant made).tensor? = some made.tensor := rfl
          exact ⟨made.tensor, enters_apply entered, rfl, rfl⟩
      | input declared => cases new
      | node made shape dtype => cases new
      | layer made => cases new
  ordered earlier node later split name read := by
    have inputs : (addition.apply counter graph).inputs =
      graph.inputs ++ addition.input?.toList := rfl
    have constants : (addition.apply counter graph).constants =
      graph.constants ++ addition.constant?.toList := rfl
    rw [inputs, constants, List.map_append, List.map_append]
    exact (ordered_apply single allowed split read).imp (List.mem_append_left _)
      (Or.imp_left (List.mem_append_left _))

/-- **Growth** keeps the property. -/
theorem of_grows {before after : Graph} {additions : List Addition}
    (grows : before.Grows additions after) (single : before.SingleAssignment) :
    after.SingleAssignment := by
  induction grows with
  | done graph counter =>
      exact ⟨single.keys, single.table, single.distinct, single.named, single.inputs,
        single.constants, single.ordered⟩
  | add graph addition counter rest after _ allowed _ ih => exact ih (single.apply allowed)

end SingleAssignment

end Graph

/-! ### Exported models -/

namespace Model

/-- The names that a model produces: its inputs, its constants and the outputs of its nodes. -/
def producers (model : Model) : List String :=
  model.inputs.map ValueInfo.name ++ model.constants.map Constant.name ++
    model.nodes.map Node.output

/-- **Closed models**: what a node reads and what the model puts out has exactly one producer. -/
structure Closed (model : Model) : Prop where
  reads : ∀ node ∈ model.nodes, ∀ name ∈ node.inputs, model.producers.count name = 1
  results : ∀ output ∈ model.outputs, model.producers.count output.name = 1

end Model

namespace Graph

/-- **An exported model is closed.** -/
theorem SingleAssignment.closed {graph : Graph} (single : graph.SingleAssignment)
    {outputs : List Handle} {options : ExportOptions} {model : Model}
    (exported : graph.toModel outputs options = .ok model) : model.Closed := by
  have exports := exports_of_toModel exported
  have producers : model.producers = graph.defined := by
    unfold Model.producers defined
    rw [exports.inputs, exports.constants, exports.nodes]
  refine ⟨fun node member name read => ?_, ?_⟩
  · rw [exports.nodes] at member
    obtain ⟨earlier, later, split⟩ := List.append_of_mem member
    rw [producers]
    refine List.count_eq_one_of_mem single.distinct ?_
    have source := single.ordered earlier node later split name read
    rw [defined, List.mem_append, List.mem_append, or_assoc, split, List.map_append]
    exact source.imp id (Or.imp id (List.mem_append_left _))
  · intro output member
    rw [producers]
    refine List.count_eq_one_of_mem single.distinct ?_
    have listed : output.name ∈ outputs.map Handle.name := by
      rw [← exports.outputs]
      exact List.mem_map_of_mem member
    obtain ⟨tensor, wanted, same⟩ := List.mem_map.mp listed
    rw [← single.keys, ← NameTable.contains_iff, ← same]
    exact contains_of_owns (exports.owned tensor wanted)

end Graph

end OperatorLowering
