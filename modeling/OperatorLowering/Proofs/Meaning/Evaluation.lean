/-
**The values that a graph computes.**

An environment gives values to tensor names. Evaluating nodes in order adds the value of each node's
output; it fails where a node reads a name without a value, or values that its operator does not
take. What a graph grew by is evaluated from an environment for the older tensors, in which the new
index constants have their embedded integers.

* `evaluate?_append`, `evaluate?_frame`: nodes are evaluated one after the other, and each changes
  the value of its output alone;
* `Graph.Grows.enters_outputs`: new nodes define names that were free;
* `Environment.embed_holds`: new index constants have their integers.
-/

import Mathlib.Logic.Function.Basic
import OperatorLowering.Proofs.Graph.Growth
import OperatorLowering.Proofs.Meaning.Tensor

namespace OperatorLowering

/-- What a tensor name may stand for: values, or integers that steer a slice or a reshape. -/
inductive Value (Element : Type) where
  | data (tensor : Tensor Element)
  | indices (values : List Int)

/-- The values of tensor names. -/
abbrev Environment (Element : Type) := String → Option (Value Element)

variable {Element : Type}

/-- What an operator makes of the values of its operands. -/
def NodeOp.apply? (arithmetic : Arithmetic Element) :
    NodeOp → List (Value Element) → Option (Tensor Element)
  | .matMul, [.data a, .data b] => a.matmul? arithmetic b
  | .add, [.data a, .data b] => a.combine? arithmetic.add b
  | .mul, [.data a, .data b] => a.combine? arithmetic.mul b
  | .slice, [.data a, .indices starts, .indices stops, .indices axes, .indices steps] =>
    a.slice? starts stops axes steps
  | .reshape, [.data a, .indices target] => a.reshape? target
  | .sigmoid, [.data a] => some (a.map arithmetic.sigmoid)
  | .tanh, [.data a] => some (a.map arithmetic.tanh)
  | .transpose perm, [.data a] => a.transpose? perm
  | _, _ => none

/-- One node gives its output a value. -/
def Node.evaluate? (arithmetic : Arithmetic Element) (environment : Environment Element)
    (node : Node) : Option (Environment Element) := do
  let operands ← node.inputs.mapM environment
  let result ← node.op.apply? arithmetic operands
  return Function.update environment node.output (some (.data result))

/-- Some nodes, one after the other. -/
def evaluate? (arithmetic : Arithmetic Element) (nodes : List Node)
    (environment : Environment Element) : Option (Environment Element) :=
  nodes.foldlM (Node.evaluate? arithmetic) environment

/-- The environment in which an index constant has its integers. What the bytes of a literal stand
for is left as it is. -/
def Environment.define (environment : Environment Element) (constant : Constant) :
    Environment Element :=
  match constant.value with
  | .indices values => Function.update environment constant.name (some (.indices values))
  | .elements .. => environment

/-- The environment in which some index constants have their integers. -/
def Environment.embed (environment : Environment Element) (constants : List Constant) :
    Environment Element :=
  constants.foldl Environment.define environment

/-- **The values of what a graph grew by**: its new nodes in order, from values of the
older tensors. -/
def Graph.evaluateSince? (start after : Graph) (arithmetic : Arithmetic Element)
    (environment : Environment Element) : Option (Environment Element) :=
  OperatorLowering.evaluate? arithmetic (after.nodes.drop start.nodes.length)
    (environment.embed (after.constants.drop start.constants.length))

/-! ### Nodes in order -/

variable {arithmetic : Arithmetic Element} {environment after : Environment Element}

/-- A node whose operands have values that its operator takes. -/
theorem Node.evaluate?_eq {node : Node} {operands : List (Value Element)}
    {result : Tensor Element} (reads : node.inputs.mapM environment = some operands)
    (applies : node.op.apply? arithmetic operands = some result) :
    node.evaluate? arithmetic environment =
      some (Function.update environment node.output (some (.data result))) := by
  unfold evaluate?
  rw [reads, Option.bind_eq_bind, Option.bind_some, applies]
  rfl

theorem evaluate?_append (first second : List Node) :
    evaluate? arithmetic (first ++ second) environment =
      (evaluate? arithmetic first environment).bind (evaluate? arithmetic second) :=
  List.foldlM_append

theorem evaluate?_singleton (node : Node) :
    evaluate? arithmetic [node] environment = node.evaluate? arithmetic environment := by
  unfold evaluate?
  rw [List.foldlM_cons]
  exact bind_pure _

/-- **A name that no node defines** keeps its value. -/
theorem evaluate?_frame {nodes : List Node} {name : String}
    (evaluated : evaluate? arithmetic nodes environment = some after)
    (undefined : ∀ node ∈ nodes, node.output ≠ name) : after name = environment name := by
  induction nodes generalizing environment with
  | nil =>
      cases evaluated
      rfl
  | cons node rest ih =>
      obtain ⟨middle, one, others⟩ := Option.bind_eq_some_iff.mp evaluated
      rw [ih others fun node member => undefined node (List.mem_cons_of_mem _ member)]
      obtain ⟨operands, _, one⟩ := Option.bind_eq_some_iff.mp one
      obtain ⟨result, _, one⟩ := Option.bind_eq_some_iff.mp one
      cases one
      exact Function.update_of_ne (undefined node List.mem_cons_self).symm _ _

/-! ### What a graph grows by -/

namespace Graph.Grows

variable {before grown : Graph} {additions : List Addition}

/-- The nodes that a graph grew by. -/
theorem drop_nodes (grows : before.Grows additions grown) :
    grown.nodes.drop before.nodes.length = additions.filterMap Addition.node? := by
  rw [grows.nodes, List.drop_left]

/-- The constants that a graph grew by. -/
theorem drop_constants (grows : before.Grows additions grown) :
    grown.constants.drop before.constants.length = additions.filterMap Addition.constant? := by
  rw [grows.constants, List.drop_left]

/-- **New nodes** define names that were free and are taken afterwards. -/
theorem enters_outputs (grows : before.Grows additions grown) {node : Node}
    (member : node ∈ additions.filterMap Addition.node?) :
    before.tensors.contains node.output = false ∧ grown.tensors.contains node.output = true := by
  obtain ⟨addition, listed, isNode⟩ := List.mem_filterMap.mp member
  cases addition with
  | node made shape dtype =>
      cases isNode
      obtain ⟨free, owned⟩ := grows.enters listed rfl
      exact ⟨free, contains_of_owns owned⟩
  | input tensor => cases isNode
  | constant made => cases isNode
  | layer made => cases isNode

/-- **New nodes** leave the values of names alone that were taken before, and of those that are
still free. -/
theorem evaluate_frame (grows : before.Grows additions grown)
    (evaluated :
      evaluate? arithmetic (additions.filterMap Addition.node?) environment = some after)
    {name : String} (apart : before.tensors.contains name = true ∨
      grown.tensors.contains name = false) : after name = environment name := by
  refine evaluate?_frame evaluated fun node member same => ?_
  obtain ⟨free, taken⟩ := grows.enters_outputs member
  rw [same] at free taken
  rcases apart with there | absent
  · rw [there] at free
    cases free
  · rw [absent] at taken
    cases taken

/-- New constants are under names that were free. -/
theorem enters_constants (grows : before.Grows additions grown) {constant : Constant}
    (member : constant ∈ additions.filterMap Addition.constant?) :
    before.tensors.contains constant.name = false := by
  obtain ⟨addition, listed, isConstant⟩ := List.mem_filterMap.mp member
  cases addition with
  | constant made =>
      cases isConstant
      exact (grows.enters listed rfl).1
  | input tensor => cases isConstant
  | node made shape dtype => cases isConstant
  | layer made => cases isConstant

end Graph.Grows

/-! ### Index constants -/

namespace Environment

/-- Index constants have their integers. -/
def Holds (environment : Environment Element) (constants : List Constant) : Prop :=
  ∀ constant ∈ constants, ∀ values, constant.value = .indices values →
    environment constant.name = some (.indices values)

theorem define_of_ne {constant : Constant} {name : String} (different : constant.name ≠ name) :
    environment.define constant name = environment name := by
  unfold define
  cases constant.value with
  | indices values => exact Function.update_of_ne different.symm _ _
  | elements dtype dims bytes => rfl

/-- A name that is none of the constants' keeps its value. -/
theorem embed_of_free {constants : List Constant} {name : String}
    (free : ∀ constant ∈ constants, constant.name ≠ name) :
    environment.embed constants name = environment name := by
  induction constants generalizing environment with
  | nil => rfl
  | cons constant rest ih =>
      rw [embed, List.foldl_cons, ← embed,
        ih fun other member => free other (List.mem_cons_of_mem _ member),
        define_of_ne (free constant List.mem_cons_self)]

/-- **Embedded index constants** have their integers if their names differ. -/
theorem embed_holds {constants : List Constant} (distinct : (constants.map Constant.name).Nodup) :
    (environment.embed constants).Holds constants := by
  induction constants generalizing environment with
  | nil => exact fun constant member => (by cases member)
  | cons first rest ih =>
      rw [List.map_cons, List.nodup_cons] at distinct
      intro constant member values isIndices
      rcases List.mem_cons.mp member with rfl | later
      · have free : ∀ other ∈ rest, other.name ≠ constant.name := fun other listed same =>
          distinct.1 (List.mem_map.mpr ⟨other, listed, same⟩)
        rw [embed, List.foldl_cons, ← embed, embed_of_free free, define, isIndices]
        exact Function.update_self _ _ _
      · exact ih distinct.2 constant later values isIndices

end Environment

/-- The names of new constants differ. -/
theorem Graph.Grows.distinct_constants {before grown : Graph} {additions : List Addition}
    (grows : before.Grows additions grown) :
    ((additions.filterMap Addition.constant?).map Constant.name).Nodup := by
  have sublist : ((additions.filterMap Addition.constant?).map Constant.name).Sublist
      ((additions.filterMap Addition.tensor?).map Handle.name) := by
    clear grows
    induction additions with
    | nil => exact List.Sublist.refl _
    | cons addition rest ih =>
        cases addition with
        | constant made => exact ih.cons_cons _
        | input tensor => exact ih.cons _
        | node made shape dtype => exact ih.cons _
        | layer made => exact ih
  exact grows.distinct.sublist sublist

end OperatorLowering
